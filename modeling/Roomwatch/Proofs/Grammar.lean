import Mathlib
import Roomwatch.Proofs.Offsets

/-! The grammar of a sample line.

A line that holds a sample is its name, a block of labels in braces or none, blank space,
a token, and whatever follows the token. A block is a list of pieces, each with the
separators before it, and a label value is a list of items: characters that stand for
themselves and characters after a backslash. A `Split` is a line taken apart in that way,
with every character accounted for.

A line is read as a sample just when it has a split that says so, and no line has two
(`readSample_grammar`). A block is read to its end on every input. -/
namespace Roomwatch.Exposition

open Number (Numeral)
open Text (isBlank trim trimStart firstWord?)

/-! ### Lines taken apart -/

/-- One character of a label value, as it is written. -/
inductive Item where
  | plain (c : Char)
  | escaped (c : Char)

namespace Item

def text : Item → List Char
  | .plain c => [c]
  | .escaped c => ['\\', c]

/-- The character that an item stands for. -/
def meaning : Item → Char
  | .plain c => c
  | .escaped c => if c = 'n' then '\n' else c

def Sound : Item → Prop
  | .plain c => c ≠ '\\' ∧ c ≠ '"'
  | .escaped _ => True

end Item

/-- A label with the separators before it. -/
structure Piece where
  separators : List Char
  key : List Char
  body : List Item

namespace Piece

def text (p : Piece) : List Char :=
  p.separators ++ (p.key ++ '=' :: '"' :: (p.body.flatMap Item.text ++ ['"']))

structure Sound (p : Piece) : Prop where
  separators : Separators p.separators
  equals : '=' ∉ p.key
  first : ∀ c ∈ p.key.head?, c ≠ ',' ∧ c ≠ ' ' ∧ c ≠ '\x7d'
  body : ∀ i ∈ p.body, i.Sound

def label (p : Piece) : Label :=
  (String.ofList (trim p.key), String.ofList (p.body.map Item.meaning))

end Piece

/-- A block of labels, with the separators before its closing brace. -/
structure Block where
  pieces : List Piece
  closing : List Char

namespace Block

/-- What stands between the braces, and the closing brace. -/
def body (b : Block) : List Char := b.pieces.flatMap Piece.text ++ (b.closing ++ ['\x7d'])

structure Sound (b : Block) : Prop where
  pieces : ∀ p ∈ b.pieces, p.Sound
  closing : Separators b.closing

end Block

/-- A line taken apart. -/
structure Split where
  name : List Char
  block : Option Block
  gap : List Char
  token : List Char
  rest : List Char

namespace Split

/-- What follows the labels. -/
def tail (x : Split) : List Char := x.gap ++ (x.token ++ x.rest)

def blockText (x : Split) : List Char := x.block.elim [] fun b => '\x7b' :: b.body

def text (x : Split) : List Char := x.name ++ (x.blockText ++ x.tail)

def labels (x : Split) : List Label := x.block.elim [] fun b => b.pieces.map Piece.label

structure Sound (x : Split) : Prop where
  name : ∀ c ∈ x.name, c ≠ '\x7b' ∧ isBlank c = false
  block : ∀ b ∈ x.block, b.Sound
  /-- Without a block, the name ends at blank space. -/
  apart : x.block = none → x.gap ≠ []
  gap : ∀ c ∈ x.gap, isBlank c = true
  token : ∀ c ∈ x.token, isBlank c = false
  nonempty : x.token ≠ []
  rest : ∀ c ∈ x.rest.head?, isBlank c = true

/-- The sample that a split says. -/
structure Says (x : Split) (s : Sample) : Prop where
  name : s.name = String.ofList x.name
  labels : s.labels = x.labels
  value : Numeral.read? x.token = some s.value

end Split

/-! ### Cutting at the first character of a kind -/

section Cuts
variable {p : Char → Bool} {s t u v : List Char}

/-- What stands before the first character of a kind is determined. -/
theorem append_inj_of_stop (hs : ∀ c ∈ s, p c = true) (ht : ∀ c ∈ t.head?, p c = false)
    (hu : ∀ c ∈ u, p c = true) (hv : ∀ c ∈ v.head?, p c = false) (h : s ++ t = u ++ v) :
    s = u ∧ t = v := by
  have htake := congrArg (List.takeWhile p) h
  have hdrop := congrArg (List.dropWhile p) h
  rw [takeWhile_stop hs ht, takeWhile_stop hu hv] at htake
  rw [dropWhile_stop hs ht, dropWhile_stop hu hv] at hdrop
  exact ⟨htake, hdrop⟩

theorem head?_dropWhile_stop : ∀ c ∈ (s.dropWhile p).head?, p c = false := by
  intro c hc
  have := List.head?_dropWhile_not p s
  rw [Option.mem_def] at hc
  rw [hc] at this
  simpa using this

end Cuts

/-! ### Values -/

theorem readValue_items {body : List Item} (h : ∀ i ∈ body, i.Sound) (rest : List Char) :
    readValue (body.flatMap Item.text ++ '"' :: rest) = some (body.map Item.meaning, rest) := by
  induction body with
  | nil => simp [readValue]
  | cons i body ih =>
    rw [List.forall_mem_cons] at h
    have hrest := ih h.2
    cases i with
    | plain c =>
      obtain ⟨hb, hq⟩ := h.1
      simp only [List.flatMap_cons, Item.text, List.cons_append, List.nil_append]
      rw [readValue, hrest]
      · rfl
      · exact hq
      · exact fun he _ => hb he
      · exact fun _ _ he _ => hb he
    | escaped c =>
      simp only [List.flatMap_cons, Item.text, List.cons_append, List.nil_append]
      rw [readValue, hrest]
      rfl

/-- What is read as a value is a list of items. -/
theorem items_of_readValue {s value after : List Char} (h : readValue s = some (value, after)) :
    ∃ body : List Item, (∀ i ∈ body, i.Sound) ∧ value = body.map Item.meaning ∧
      s = body.flatMap Item.text ++ '"' :: after := by
  fun_induction readValue s generalizing value after with
  | case1 => contradiction
  | case2 rest =>
    obtain ⟨rfl, rfl⟩ := Prod.mk.inj (Option.some.inj h)
    exact ⟨[], by simp, rfl, rfl⟩
  | case3 => contradiction
  | case4 c rest ih =>
    obtain ⟨⟨v, a⟩, hv, he⟩ := Option.map_eq_some_iff.1 h
    obtain ⟨rfl, rfl⟩ := Prod.mk.inj he
    obtain ⟨body, hbody, rfl, rfl⟩ := ih hv
    exact ⟨.escaped c :: body, List.forall_mem_cons.2 ⟨trivial, hbody⟩, rfl, rfl⟩
  | case5 c rest hquote hlast hescape ih =>
    obtain ⟨⟨v, a⟩, hv, he⟩ := Option.map_eq_some_iff.1 h
    obtain ⟨rfl, rfl⟩ := Prod.mk.inj he
    obtain ⟨body, hbody, rfl, rfl⟩ := ih hv
    have hplain : (Item.plain c).Sound := by
      refine ⟨fun hc => ?_, hquote⟩
      cases hrest : body.flatMap Item.text ++ '"' :: a with
      | nil => simp at hrest
      | cons d tail => exact hescape d tail hc hrest
    exact ⟨.plain c :: body, List.forall_mem_cons.2 ⟨hplain, hbody⟩, rfl, rfl⟩

/-- The items of a value are determined. -/
theorem items_inj {a b : List Item} {s t : List Char} (ha : ∀ i ∈ a, i.Sound)
    (hb : ∀ i ∈ b, i.Sound)
    (h : a.flatMap Item.text ++ '"' :: s = b.flatMap Item.text ++ '"' :: t) : a = b ∧ s = t := by
  -- Before an item stands neither a closing quote nor another item.
  have first (i : Item) (hi : i.Sound) (u : List Char) : (i.text ++ u).head? ≠ some '"' := by
    cases i with
    | plain c => simpa [Item.text] using hi.2
    | escaped c => simp [Item.text]
  have item (i j : Item) (hi : i.Sound) (hj : j.Sound) (u v : List Char)
      (huv : i.text ++ u = j.text ++ v) : i = j ∧ u = v := by
    cases i with
    | plain c =>
      cases j with
      | plain d => simpa [Item.text] using huv
      | escaped d => exact absurd (List.cons.inj huv).1 hi.1
    | escaped c =>
      cases j with
      | plain d => exact absurd (List.cons.inj huv).1.symm hj.1
      | escaped d => simpa [Item.text] using huv
  induction a generalizing b with
  | nil =>
    cases b with
    | nil => simpa using h
    | cons j b =>
      rw [List.forall_mem_cons] at hb
      rw [List.flatMap_cons, List.append_assoc] at h
      exact absurd (congrArg List.head? h).symm (first j hb.1 _)
  | cons i a ih =>
    rw [List.forall_mem_cons] at ha
    rw [List.flatMap_cons, List.append_assoc] at h
    cases b with
    | nil => exact absurd (congrArg List.head? h) (first i ha.1 _)
    | cons j b =>
      rw [List.forall_mem_cons] at hb
      rw [List.flatMap_cons, List.append_assoc] at h
      obtain ⟨rfl, hrest⟩ := item i j ha.1 hb.1 _ _ h
      obtain ⟨rfl, rfl⟩ := ih ha.2 hb.2 hrest
      exact ⟨rfl, rfl⟩

/-! ### Pieces -/

section Pieces
variable {p q : Piece} {s t : List Char}

/-- A key starts with no separator and no brace, and neither does the equals sign after it. -/
theorem Piece.Sound.head?_key (hp : p.Sound) :
    ∀ c ∈ (p.key ++ '=' :: s).head?, isSeparator c = false ∧ c ≠ '\x7d' := by
  intro c hc
  cases hkey : p.key with
  | nil =>
    rw [hkey] at hc
    obtain rfl : c = '=' := by simpa using hc.symm
    decide
  | cons d tail =>
    rw [hkey] at hc
    obtain rfl : d = c := by simpa using hc
    obtain ⟨hcomma, hspace, hbrace⟩ := hp.first d (by simp [hkey])
    exact ⟨by simp [isSeparator, hcomma, hspace], hbrace⟩

theorem Piece.Sound.plain_key (hp : p.Sound) : ∀ c ∈ p.key, decide (c ≠ '=') = true := by
  intro c hc
  simpa using fun he : c = '=' => hp.equals (he ▸ hc)

theorem Piece.text_append (p : Piece) (s : List Char) :
    p.text ++ s =
      p.separators ++ (p.key ++ '=' :: '"' :: (p.body.flatMap Item.text ++ '"' :: s)) := by
  simp [Piece.text]

theorem skipSeparators_piece (hp : p.Sound) (s : List Char) :
    skipSeparators (p.text ++ s) =
      p.key ++ '=' :: '"' :: (p.body.flatMap Item.text ++ '"' :: s) := by
  rw [p.text_append]
  exact dropWhile_stop hp.separators.skipped fun c hc => (hp.head?_key c hc).1

theorem readLabel_piece (hp : p.Sound) (s : List Char) :
    readLabel (skipSeparators (p.text ++ s)) = some (p.label, s) := by
  rw [skipSeparators_piece hp]
  simp [readLabel, readKey_written _ hp.equals, readValue_items hp.body, Piece.label]

theorem readLabels_piece (hp : p.Sound) (s : List Char) :
    readLabels (p.text ++ s) =
      (readLabels s).map fun (labels, tail) => (p.label :: labels, tail) := by
  refine readLabels_of_readLabel (fun hbrace => ?_) (readLabel_piece hp s)
  rw [skipSeparators_piece hp] at hbrace
  exact (hp.head?_key _ hbrace).2 rfl

theorem readLabels_closing {separators : List Char} (hs : Separators separators) (s : List Char) :
    readLabels (separators ++ '\x7d' :: s) = some ([], s) := by
  rw [readLabels, skipSeparators, dropWhile_stop hs.skipped (by simp [isSeparator])]
  rfl

/-- What is read as a label is a piece, with the separators that were skipped. -/
theorem piece_of_readLabel {label : Label} (hbrace : (skipSeparators s).head? ≠ some '\x7d')
    (h : readLabel (skipSeparators s) = some (label, t)) :
    ∃ p : Piece, p.Sound ∧ p.label = label ∧ s = p.text ++ t := by
  simp only [readLabel, Option.bind_eq_bind, Option.bind_eq_some_iff, Option.pure_def,
    Option.some.injEq, Prod.mk.injEq] at h
  obtain ⟨⟨key, quoted⟩, hkey, ⟨value, rest⟩, hvalue, hlabel, rfl⟩ := h
  obtain ⟨body, hbody, rfl, rfl⟩ := items_of_readValue hvalue
  have hskip : skipSeparators s = key ++ '=' :: '"' :: (body.flatMap Item.text ++ '"' :: rest) ∧
      '=' ∉ key := by
    unfold readKey at hkey
    split at hkey
    · next hdrop =>
      obtain ⟨rfl, rfl⟩ := Prod.mk.inj (Option.some.inj hkey)
      refine ⟨?_, fun he => by simpa using List.mem_takeWhile_imp he⟩
      rw [← hdrop, List.takeWhile_append_dropWhile]
    · contradiction
  obtain ⟨hskip, hequals⟩ := hskip
  refine ⟨⟨s.takeWhile isSeparator, key, body⟩, ⟨fun c hc => ?_, hequals, fun c hc => ?_, hbody⟩,
    hlabel, ?_⟩
  · simpa [isSeparator] using List.mem_takeWhile_imp hc
  · have hhead : c ∈ (skipSeparators s).head? := by
      rw [hskip]
      exact List.mem_head?_append_of_mem_head? hc
    have hseparator : isSeparator c = false := head?_dropWhile_stop c hhead
    simp only [isSeparator, Bool.or_eq_false_iff, decide_eq_false_iff_not] at hseparator
    exact ⟨hseparator.1, hseparator.2, fun he => hbrace (he ▸ hhead)⟩
  · rw [Piece.text_append, ← hskip]
    exact List.takeWhile_append_dropWhile.symm

/-- The pieces of a block are determined. -/
theorem piece_inj (hp : p.Sound) (hq : q.Sound) (h : p.text ++ s = q.text ++ t) :
    p = q ∧ s = t := by
  rw [p.text_append, q.text_append] at h
  obtain ⟨hseparators, h⟩ := append_inj_of_stop hp.separators.skipped
    (fun c hc => (hp.head?_key c hc).1) hq.separators.skipped (fun c hc => (hq.head?_key c hc).1) h
  obtain ⟨hkey, h⟩ := append_inj_of_stop hp.plain_key (by simp) hq.plain_key (by simp) h
  obtain ⟨hbody, hrest⟩ := items_inj hp.body hq.body (by simpa using h)
  obtain ⟨separators, key, body⟩ := p
  obtain ⟨separators', key', body'⟩ := q
  simp only at hseparators hkey hbody
  exact ⟨by rw [hseparators, hkey, hbody], hrest⟩

/-- Where a block is closed there is no further piece. -/
theorem closing_ne_piece {separators : List Char} (hs : Separators separators) (hp : p.Sound) :
    separators ++ '\x7d' :: s ≠ p.text ++ t := by
  intro h
  rw [p.text_append] at h
  obtain ⟨-, hrest⟩ := append_inj_of_stop hs.skipped (by simp [isSeparator]) hp.separators.skipped
    (fun c hc => (hp.head?_key c hc).1) h
  exact (hp.head?_key '\x7d' (congrArg List.head? hrest).symm).2 rfl

end Pieces

/-! ### Blocks -/

section Blocks
variable {a b : Block} {s t : List Char}

theorem readLabels_body (hb : b.Sound) (s : List Char) :
    readLabels (b.body ++ s) = some (b.pieces.map Piece.label, s) := by
  obtain ⟨pieces, closing⟩ := b
  obtain ⟨hpieces, hclosing⟩ := hb
  simp only [Block.body] at *
  induction pieces with
  | nil =>
    simpa using readLabels_closing hclosing s
  | cons p pieces ih =>
    rw [List.forall_mem_cons] at hpieces
    have hrest := ih hpieces.2
    rw [List.flatMap_cons, List.append_assoc, List.append_assoc, readLabels_piece hpieces.1,
      ← List.append_assoc, hrest]
    rfl

/-- What is read as a block of labels is one. -/
theorem block_of_readLabels {labels : List Label} (h : readLabels s = some (labels, t)) :
    ∃ b : Block, b.Sound ∧ b.pieces.map Piece.label = labels ∧ s = b.body ++ t := by
  fun_induction readLabels s generalizing labels t with
  | case1 s after hskip =>
    obtain ⟨rfl, rfl⟩ := Prod.mk.inj (Option.some.inj h)
    refine ⟨⟨[], s.takeWhile isSeparator⟩, ⟨by simp, fun c hc => ?_⟩, rfl, ?_⟩
    · simpa [isSeparator] using List.mem_takeWhile_imp hc
    · have := List.takeWhile_append_dropWhile (p := isSeparator) (l := s)
      rw [show s.dropWhile isSeparator = _ from hskip] at this
      simpa [Block.body] using this.symm
  | case2 => contradiction
  | case3 s label after hlabel hbrace ih =>
    obtain ⟨⟨more, tail⟩, hmore, he⟩ := Option.map_eq_some_iff.1 h
    obtain ⟨rfl, rfl⟩ := Prod.mk.inj he
    obtain ⟨b, hb, rfl, rfl⟩ := ih hmore
    have hopen : (skipSeparators s).head? ≠ some '\x7d' := by
      intro hhead
      obtain ⟨rest, hrest⟩ := List.head?_eq_some_iff.1 hhead
      exact hbrace rest hrest
    obtain ⟨p, hp, rfl, rfl⟩ := piece_of_readLabel hopen hlabel
    refine ⟨⟨p :: b.pieces, b.closing⟩, ⟨List.forall_mem_cons.2 ⟨hp, hb.pieces⟩, hb.closing⟩,
      rfl, ?_⟩
    simp [Block.body]

/-- No block is the beginning of another one. -/
theorem body_inj (ha : a.Sound) (hb : b.Sound) (h : a.body ++ s = b.body ++ t) : a = b ∧ s = t := by
  obtain ⟨pieces, closing⟩ := a
  obtain ⟨pieces', closing'⟩ := b
  obtain ⟨hpieces, hclosing⟩ := ha
  obtain ⟨hpieces', hclosing'⟩ := hb
  simp only [Block.body, List.append_assoc, List.singleton_append] at *
  induction pieces generalizing pieces' with
  | nil =>
    cases pieces' with
    | nil =>
      obtain ⟨rfl, hrest⟩ := append_inj_of_stop hclosing.skipped (by simp [isSeparator])
        hclosing'.skipped (by simp [isSeparator]) h
      exact ⟨rfl, (List.cons.inj hrest).2⟩
    | cons q pieces' =>
      rw [List.flatMap_cons, List.append_assoc] at h
      exact absurd h (closing_ne_piece hclosing (hpieces' q (List.mem_cons_self ..)))
  | cons p pieces ih =>
    rw [List.forall_mem_cons] at hpieces
    rw [List.flatMap_cons, List.append_assoc] at h
    cases pieces' with
    | nil => exact absurd h.symm (closing_ne_piece hclosing' hpieces.1)
    | cons q pieces' =>
      rw [List.forall_mem_cons] at hpieces'
      rw [List.flatMap_cons, List.append_assoc] at h
      obtain ⟨rfl, hrest⟩ := piece_inj hpieces.1 hpieces'.1 h
      obtain ⟨hblock, rfl⟩ := ih pieces' hpieces.2 hpieces'.2 hrest
      obtain ⟨rfl, rfl⟩ := Block.mk.inj hblock
      exact ⟨rfl, rfl⟩

end Blocks

/-! ### Lines -/

section Lines
variable {x y : Split} {line : List Char} {s : Sample}

theorem Split.Sound.solid_name (hx : x.Sound) : ∀ c ∈ x.name, (!endsName c) = true := fun c hc => by
  simp [endsName, hx.name c hc]

/-- After the name comes a brace or blank space. -/
theorem Split.Sound.head?_rest (hx : x.Sound) :
    ∀ c ∈ (x.blockText ++ x.tail).head?, (!endsName c) = false := by
  intro c hc
  cases hblock : x.block with
  | some b =>
    obtain rfl : '\x7b' = c := by simpa [Split.blockText, hblock] using hc
    rfl
  | none =>
    obtain ⟨d, gap, hgap⟩ := List.exists_cons_of_ne_nil (hx.apart hblock)
    obtain rfl : d = c := by simpa [Split.blockText, Split.tail, hblock, hgap] using hc
    simp [endsName, hx.gap d (by simp [hgap])]

theorem Split.Sound.head?_token (hx : x.Sound) :
    ∀ c ∈ (x.token ++ x.rest).head?, isBlank c = false := by
  intro c hc
  obtain ⟨d, token, htoken⟩ := List.exists_cons_of_ne_nil hx.nonempty
  obtain rfl : d = c := by simpa [htoken] using hc
  exact hx.token d (by simp [htoken])

theorem readToken?_tail (hx : x.Sound) : readToken? x.tail = Numeral.read? x.token := by
  have hstart : trimStart x.tail = x.token ++ x.rest := dropWhile_stop hx.gap hx.head?_token
  obtain ⟨c, token, htoken⟩ := List.exists_cons_of_ne_nil hx.nonempty
  have hword : firstWord? x.tail = some x.token := by
    rw [firstWord?, hstart, htoken]
    show some ((c :: token ++ x.rest).takeWhile _) = _
    rw [← htoken, takeWhile_stop]
    · simpa using hx.token
    · simpa using hx.rest
  rw [readToken?, hword]
  rfl

theorem readBlock_split (hx : x.Sound) :
    readBlock (x.blockText ++ x.tail) = some (x.labels, x.tail) := by
  cases hblock : x.block with
  | some b =>
    simp only [Split.blockText, Split.labels, hblock, Option.elim_some]
    exact readLabels_body (hx.block b hblock) x.tail
  | none =>
    simp only [Split.blockText, Split.labels, hblock, Option.elim_none, List.nil_append]
    obtain ⟨c, gap, hgap⟩ := List.exists_cons_of_ne_nil (hx.apart hblock)
    have hc : c ≠ '\x7b' := by
      rintro rfl
      exact absurd (hx.gap '\x7b' (by simp [hgap])) (by decide)
    unfold readBlock
    split
    · next heq =>
      simp only [Split.tail, hgap, List.cons_append] at heq
      exact absurd (List.cons.inj heq).1 hc
    · rfl

/-- The first word of a text, taken out of it. -/
theorem tail_of_readToken? {tail : List Char} {value : Numeral} (h : readToken? tail = some value) :
    ∃ gap token rest, tail = gap ++ (token ++ rest) ∧ (∀ c ∈ gap, isBlank c = true) ∧
      (∀ c ∈ token, isBlank c = false) ∧ token ≠ [] ∧ (∀ c ∈ rest.head?, isBlank c = true) ∧
      Numeral.read? token = some value := by
  obtain ⟨token, hword, hvalue⟩ := Option.bind_eq_some_iff.1 h
  unfold firstWord? at hword
  split at hword
  · contradiction
  · next c after hstart =>
    obtain rfl := Option.some.inj hword
    have hc : isBlank c = false := head?_dropWhile_stop c (congrArg List.head? hstart)
    refine ⟨tail.takeWhile isBlank, _, (c :: after).dropWhile fun d => !isBlank d, ?_,
      fun _ hd => List.mem_takeWhile_imp hd, fun d hd => ?_, ?_, fun d hd => ?_, hvalue⟩
    · rw [List.takeWhile_append_dropWhile, ← hstart]
      exact List.takeWhile_append_dropWhile.symm
    · simpa using List.mem_takeWhile_imp hd
    · simp [hc]
    · simpa using head?_dropWhile_stop d hd

/-- A line that can be taken apart is read as what its split says. -/
theorem readSample_split (hx : x.Sound) (hs : x.Says s) : readSample x.text = some s := by
  have hdrop : x.text.dropWhile (fun c => !endsName c) = x.blockText ++ x.tail :=
    dropWhile_stop hx.solid_name hx.head?_rest
  have htake : x.text.takeWhile (fun c => !endsName c) = x.name :=
    takeWhile_stop hx.solid_name hx.head?_rest
  have hne : x.blockText ++ x.tail ≠ [] := by
    simp [Split.tail, hx.nonempty]
  unfold readSample
  rw [hdrop, htake]
  split
  · next heq => exact absurd heq hne
  · simp only [readBlock_split hx, Option.bind_eq_bind, Option.bind_some, readToken?_tail hx,
      hs.value, Option.pure_def, ← hs.name, ← hs.labels]

/-- What is read as a sample can be taken apart. -/
theorem split_of_readSample (h : readSample line = some s) :
    ∃ x : Split, x.Sound ∧ x.text = line ∧ x.Says s := by
  have hline := List.takeWhile_append_dropWhile (p := fun c => !endsName c) (l := line)
  have hname : ∀ c ∈ line.takeWhile fun c => !endsName c, c ≠ '\x7b' ∧ isBlank c = false :=
    fun c hc => by simpa [endsName] using List.mem_takeWhile_imp hc
  have hstop := head?_dropWhile_stop (p := fun c => !endsName c) (s := line)
  unfold readSample at h
  split at h
  · contradiction
  · simp only [Option.bind_eq_bind, Option.bind_eq_some_iff, Option.pure_def,
      Option.some.injEq] at h
    obtain ⟨⟨labels, tail⟩, hblock, value, hvalue, rfl⟩ := h
    obtain ⟨gap, token, rest, rfl, hgap, htoken, hnonempty, hrest, hread⟩ :=
      tail_of_readToken? hvalue
    unfold readBlock at hblock
    split at hblock
    · next body hopen =>
      obtain ⟨b, hb, rfl, rfl⟩ := block_of_readLabels hblock
      refine ⟨⟨_, some b, gap, token, rest⟩, ⟨hname, ?_, by simp, hgap, htoken, hnonempty, hrest⟩,
        ?_, ⟨rfl, rfl, hread⟩⟩
      · simpa using hb
      · refine Eq.trans ?_ hline
        rw [hopen]
        rfl
    · next hclosed =>
      obtain ⟨rfl, htail⟩ := Prod.mk.inj (Option.some.inj hblock)
      refine ⟨⟨_, none, gap, token, rest⟩, ⟨hname, by simp, fun _ => ?_, hgap, htoken, hnonempty,
        hrest⟩, ?_, ⟨rfl, rfl, hread⟩⟩
      · rintro rfl
        obtain ⟨c, after, rfl⟩ := List.exists_cons_of_ne_nil hnonempty
        have hends : (!endsName c) = false := hstop c (by simp [htail])
        have hc : c ≠ '\x7b' := fun he => hclosed (after ++ rest) (by simp [htail, he])
        simp [endsName, hc, htoken c (List.mem_cons_self ..)] at hends
      · refine Eq.trans ?_ hline
        rw [htail]
        rfl

/-- A line can be taken apart in one way at most. -/
theorem split_inj (hx : x.Sound) (hy : y.Sound) (h : x.text = y.text) : x = y := by
  obtain ⟨hname, hrest⟩ := append_inj_of_stop hx.solid_name hx.head?_rest hy.solid_name
    hy.head?_rest h
  have hopen (x : Split) (hx : x.Sound) (hnone : x.block = none) (s : List Char) :
      x.tail ≠ '\x7b' :: s := by
    intro htail
    obtain ⟨c, gap, hgap⟩ := List.exists_cons_of_ne_nil (hx.apart hnone)
    simp only [Split.tail, hgap, List.cons_append] at htail
    have hc := hx.gap c (by simp [hgap])
    rw [(List.cons.inj htail).1] at hc
    exact absurd hc (by decide)
  have hparts : x.block = y.block ∧ x.tail = y.tail := by
    cases hxb : x.block with
    | none =>
      cases hyb : y.block with
      | none => simpa [Split.blockText, hxb, hyb] using hrest
      | some b =>
        simp only [Split.blockText, hxb, hyb] at hrest
        exact absurd hrest (hopen x hx hxb _)
    | some a =>
      cases hyb : y.block with
      | none =>
        simp only [Split.blockText, hxb, hyb] at hrest
        exact absurd hrest.symm (hopen y hy hyb _)
      | some b =>
        simp only [Split.blockText, hxb, hyb] at hrest
        obtain ⟨rfl, htail⟩ := body_inj (hx.block a hxb) (hy.block b hyb) (List.cons.inj hrest).2
        exact ⟨rfl, htail⟩
  obtain ⟨hblock, htail⟩ := hparts
  obtain ⟨hgap, htail⟩ := append_inj_of_stop hx.gap hx.head?_token hy.gap hy.head?_token htail
  have hsolid (x : Split) (hx : x.Sound) : ∀ c ∈ x.token, (!isBlank c) = true := by
    simpa using hx.token
  obtain ⟨htoken, hend⟩ := append_inj_of_stop (p := fun c => !isBlank c) (hsolid x hx)
    (by simpa using hx.rest) (hsolid y hy) (by simpa using hy.rest) htail
  obtain ⟨⟩ := x
  obtain ⟨⟩ := y
  rw [Split.mk.injEq]
  exact ⟨hname, hblock, hgap, htoken, hend⟩

end Lines

/-- A line is read as a sample just when it can be taken apart into one, and it can be taken
apart in one way at most. Its labels can be found by byte offsets: that comes to an end, no
cut falls within a character, and the labels are the same. -/
theorem readSample_grammar (line : List Char) :
    (∀ s, readSample line = some s ↔ ∃ x : Split, x.Sound ∧ x.text = line ∧ x.Says s) ∧
      (∀ x y : Split, x.Sound → y.Sound → x.text = line → y.text = line → x = y) ∧
      ∀ input, ∃ result, rounds (input.length + 1) [] input = some result ∧
        result ≠ .error .cut ∧ result.toOption = readLabels input := by
  refine ⟨fun s => ⟨split_of_readSample, ?_⟩, fun x y hx hy htext htext' => ?_, fun input => ?_⟩
  · rintro ⟨x, hx, rfl, hs⟩
    exact readSample_split hx hs
  · exact split_inj hx hy (htext.trans htext'.symm)
  · obtain ⟨result, hresult, hcut, hlabels⟩ := rounds_eq [] (Nat.lt_succ_self input.length)
    exact ⟨result, hresult, hcut, by simpa using hlabels⟩

end Roomwatch.Exposition
