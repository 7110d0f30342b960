import Mathlib
import Roomwatch.Proofs.Merging
import Roomwatch.Proofs.Tokens

/-! What a page is read as.

A page is a list of rows: the header of each family, its sample lines, and a blank row.
A line is *readable* when its name and keys are what a reader takes for a name and for
keys and its token is a numeral; then it is one way to write a sample, with the values
that a reader sees (`written_line`). A page may be listed with its families and their lines
in any order, and with any of the lines that are merged (`Page.Lists`). However that is
done, its rows are its headers, the lines of counters and gauges that stay and all lines of
histograms (`rows_of_lists`), and it is read as the samples on them (`read_seen`). The page's
own text is one way to list it (`Page.lists_text`).

Which lines stay is certain when all are written with different labels, and it does not show
when lines that are merged say the same. Two pages that are found to have the same lines
have the same rows whichever stay (`rows_of_sameLines`). -/
namespace Roomwatch.Exposition

open Number (Numeral)
open Text (isBlank trim)

/-! ### Lines -/

/-- A line that is one way to write a sample, whatever its values are. -/
structure Line.Readable (l : Line) : Prop where
  name : IsName l.name
  keys : ∀ label ∈ l.labels, IsKey label.1
  token : ∃ value, IsToken l.token value

/-- The sample on a line, as a reader sees it. -/
def Line.seen (l : Line) : Sample :=
  ⟨l.name, l.labels.map seenLabel, (Numeral.read? l.token).getD .undefined⟩

theorem intercalate_comma (first : List Char) (rest : List (List Char)) :
    [','].intercalate (first :: rest) = first ++ rest.flatMap fun s => ',' :: s := by
  induction rest generalizing first with
  | nil => simp [List.intercalate]
  | cons second rest ih =>
    have hstep : [','].intercalate (first :: second :: rest) =
        first ++ ',' :: [','].intercalate (second :: rest) := by
      simp [List.intercalate]
    rw [hstep, ih]
    rfl

/-- A label after some separators. -/
theorem writtenLabels_cons {label : Label} {labels : List Label} {separators rest : List Char}
    (hs : Separators separators) (hk : IsKey label.1) (h : WrittenLabels labels rest) :
    WrittenLabels (seenLabel label :: labels) (separators ++ (labelText label ++ rest)) := by
  have hlabel : WrittenLabels (seenLabel label :: labels)
      (separators ++ ([] ++ label.1.toList ++ [] ++
        '=' :: '"' :: ((seenLabel label).2.toList.flatMap escapeChar ++ '"' :: rest))) :=
    .label hs gap_nil hk gap_nil h
  rw [labelText_eq_seen]
  simpa using hlabel

/-- The labels of a line, separated by single commas. -/
theorem writtenBlock_blockText {labels : List Label} (hk : ∀ label ∈ labels, IsKey label.1) :
    WrittenBlock (labels.map seenLabel) (blockText labels) := by
  have further (rest : List Label) (hk : ∀ label ∈ rest, IsKey label.1) :
      WrittenLabels (rest.map seenLabel)
        ((rest.map labelText).flatMap (fun s => ',' :: s) ++ ['}']) := by
    induction rest with
    | nil => exact .close separators_nil
    | cons label rest ih =>
      rw [List.forall_mem_cons] at hk
      have hcomma : Separators [','] := fun c hc => .inl (List.mem_singleton.1 hc)
      have := writtenLabels_cons hcomma hk.1 (ih hk.2)
      simpa using this
  cases labels with
  | nil => exact .none
  | cons label rest =>
    rw [List.forall_mem_cons] at hk
    have := writtenLabels_cons separators_nil hk.1 (further rest hk.2)
    rw [blockText, List.map_cons, List.map_cons, intercalate_comma]
    · exact .braces (by simpa using this)
    · exact List.cons_ne_nil _ _

theorem written_line {l : Line} (h : l.Readable) : WrittenSample l.seen l.text.toList := by
  obtain ⟨value, htoken⟩ := h.token
  have hsample : l.seen = ⟨l.name, l.labels.map seenLabel, value⟩ := by
    rw [Line.seen, htoken.reads]
    rfl
  have hspace : Gap [' '] := fun c hc => by
    rw [List.mem_singleton.1 hc]
    exact ⟨by decide, by decide⟩
  have hend : Trailer [] := ⟨List.not_mem_nil, fun c hc => by simp at hc⟩
  have hline := WrittenSample.intro gap_nil h.name (writtenBlock_blockText h.keys) hspace
    (List.cons_ne_nil _ _) htoken hend
  rw [hsample, Line.text, String.toList_ofList]
  simpa using hline

/-! ### Rows -/

/-- What a row holds, as its reader finds it. -/
def held (row : List Char) : List Sample :=
  (readLines ([trim row].filter isSampleLine)).toOption.getD []

theorem held_row {samples : List Sample} {row : List Char} (h : WrittenRow samples row) :
    held row = samples := by
  rw [held, readLines_row h]
  rfl

/-- A text of rows, each with its line end, is read as what its rows hold. -/
theorem readLines_rows (rows : List (List Char)) (h : ∀ row ∈ rows, WrittenRow (held row) row) :
    readLines (sampleLines (rows.flatMap (· ++ ['\n']))) = .ok (rows.flatMap held) := by
  refine readLines_written ?_
  induction rows with
  | nil => exact .last (.blank gap_nil)
  | cons row rest ih =>
    rw [List.forall_mem_cons] at h
    have := Written.row h.1 .feed (ih h.2)
    simpa using this

/-! ### Families -/

structure Family.Readable (f : Family) : Prop where
  name : IsName f.name
  help : ∀ d ∈ f.description, '\n' ∉ d.help.toList
  lines : ∀ l ∈ f.lines, l.Readable

/-- The header of a family is a list of comments. -/
theorem written_header {f : Family} (h : f.Readable) :
    ∀ row ∈ f.header, WrittenRow [] row.toList := by
  have hname : '\n' ∉ f.name.toList := row_of_solid h.name.solid
  have comment (text : String) (ht : '\n' ∉ text.toList) : WrittenRow [] ("#" ++ text).toList := by
    have := WrittenRow.comment gap_nil ht
    rwa [String.toList_append]
  intro row hrow
  rcases List.mem_append.1 hrow with hrow | hrow
  · obtain ⟨d, hd, rfl⟩ : ∃ d ∈ f.description, "# HELP " ++ f.name ++ " " ++ d.help = row := by
      simpa using hrow
    have := comment (" HELP " ++ f.name ++ " " ++ d.help) (by simp [hname, h.help d hd])
    simpa [← String.append_assoc] using this
  · obtain rfl : row = "# TYPE " ++ f.name ++ " " ++ f.shape.label := by simpa using hrow
    have hshape : '\n' ∉ f.shape.label.toList := by
      cases f.shape <;> decide
    have := comment (" TYPE " ++ f.name ++ " " ++ f.shape.label) (by simp [hname, hshape])
    simpa [← String.append_assoc] using this

/-- No row of a header is empty. -/
theorem header_nonempty {f : Family} {row : String} (h : row ∈ f.header) : row.toList ≠ [] := by
  simp only [Family.header, List.mem_append, Option.mem_toList, Option.map_eq_some_iff,
    List.mem_singleton] at h
  rcases h with ⟨d, -, rfl⟩ | rfl <;> simp

/-- The lines of a family that stay on a page: all those of a histogram, and otherwise one of all
that are merged. -/
structure Family.Keeps (f : Family) (kept : List Line) : Prop where
  histogram : f.shape = .histogram → kept = f.lines
  scalar : f.shape ≠ .histogram → Merges f.lines kept

/-- The lines that stay of a family are listed after its header, in whatever order. -/
def Family.Lists (f : Family) (block : List String) : Prop :=
  ∃ (kept : List Line) (body : List String), f.Keeps kept ∧ body.Perm (kept.map Line.text) ∧
    block = f.header ++ body

theorem Family.Keeps.lists {f : Family} {kept : List Line} (h : f.Keeps kept) :
    f.Lists (f.header ++ kept.map Line.text) := ⟨kept, _, h, .refl _, rfl⟩

/-- The canonical body of a family is one way to list it. -/
theorem lists_texts (f : Family) : f.Lists f.texts := by
  have hmerged (hshape : f.shape ≠ .histogram) : f.Keeps (merged f.lines) :=
    ⟨fun he => absurd he hshape, fun _ => merges_merged _⟩
  rw [Family.texts, Family.body]
  cases hshape : f.shape with
  | histogram => exact ⟨f.lines, _, ⟨fun _ => rfl, absurd hshape⟩, .refl _, rfl⟩
  | counter => exact ⟨_, _, hmerged (by simp [hshape]), List.mergeSort_perm _ _, rfl⟩
  | gauge => exact ⟨_, _, hmerged (by simp [hshape]), List.mergeSort_perm _ _, rfl⟩

/-! ### Pages -/

/-- Blocks of lines as a text: every line ends in a line feed, and an empty line follows each
block. -/
def listing (blocks : List (List String)) : String :=
  String.join (blocks.map fun block => String.join (block.map (· ++ "\n")) ++ "\n")

/-- Blocks that list the families of a page, in whatever order. -/
def Page.Arranges (p : Page) (listed : List (List String)) : Prop :=
  ∃ blocks : List (List String), List.Forall₂ Family.Lists p.families blocks ∧ listed.Perm blocks

/-- A text that lists the families of a page, in whatever order. -/
def Page.Lists (p : Page) (text : String) : Prop :=
  ∃ listed : List (List String), p.Arranges listed ∧ text = listing listed

theorem Page.arranges_map {p : Page} {block : Family → List String}
    (h : ∀ f ∈ p.families, f.Lists (block f)) {listed : List (List String)}
    (hperm : listed.Perm (p.families.map block)) : p.Arranges listed := by
  refine ⟨p.families.map block, ?_, hperm⟩
  rw [List.forall₂_map_right_iff, List.forall₂_same]
  exact h

theorem Page.lists_of_perm {p : Page} {listed : List (List String)}
    (h : listed.Perm (p.families.map Family.texts)) : p.Lists (listing listed) :=
  ⟨listed, Page.arranges_map (fun f _ => lists_texts f) h, rfl⟩

/-- The families with those lines that some way of merging keeps. -/
def Page.kept (p : Page) (keep : List Line → List Line) : List (List String) :=
  p.families.map fun f =>
    f.header ++ (if f.shape = .histogram then f.lines else keep f.lines).map Line.text

theorem Page.arranges_kept (p : Page) {keep : List Line → List Line}
    (h : ∀ lines, Merges lines (keep lines)) : p.Arranges (p.kept keep) := by
  refine Page.arranges_map (fun f _ => Family.Keeps.lists ⟨?_, ?_⟩) (.refl _)
  · exact fun hshape => if_pos hshape
  · intro hshape
    rw [if_neg hshape]
    exact h f.lines

theorem Page.lists_text (p : Page) : p.Lists p.text := lists_of_perm (List.mergeSort_perm _ _)

/-- The rows of some blocks: an empty one follows each block. -/
def rowsOf (blocks : List (List String)) : List (List Char) :=
  blocks.flatMap fun block => block.map String.toList ++ [[]]

theorem toList_listing (blocks : List (List String)) :
    (listing blocks).toList = (rowsOf blocks).flatMap (· ++ ['\n']) := by
  have hrow (block : List String) : (String.join (block.map (· ++ "\n")) ++ "\n").toList =
      (block.map String.toList ++ [[]]).flatMap (· ++ ['\n']) := by
    rw [String.toList_append, String.toList_join, List.flatMap_map, List.flatMap_append,
      List.flatMap_map]
    congr 1
    exact List.flatMap_congr fun row _ => String.toList_append
  rw [listing, String.toList_join, List.flatMap_map, rowsOf, List.flatMap_assoc]
  exact List.flatMap_congr fun block _ => hrow block

/-! ### Which lines a page has -/

namespace Page

/-- The lines of counters and gauges. -/
def scalarLines (p : Page) : List Line :=
  (p.families.filter fun f => f.shape ≠ .histogram).flatMap Family.lines

/-- The lines of histograms. -/
def histogramLines (p : Page) : List Line :=
  (p.families.filter fun f => f.shape = .histogram).flatMap Family.lines

/-- No two lines of a counter or gauge family are written with the same labels. -/
def Apart (p : Page) : Prop :=
  ∀ f ∈ p.families, f.shape ≠ .histogram → (f.lines.map Line.written).Nodup

/-- No two families of counters and gauges have the same name, and their lines go by it. -/
structure Named (p : Page) : Prop where
  names : ((p.families.filter fun f => f.shape ≠ .histogram).map Family.name).Nodup
  lines : ∀ f ∈ p.families, f.shape ≠ .histogram → ∀ l ∈ f.lines, l.name = f.name

/-- Lines of counters and gauges that may stay on a page. -/
structure Leaves (p : Page) (scalars : List Line) : Prop where
  known : ∀ l ∈ scalars, l ∈ p.scalarLines
  all : p.Apart → scalars.Perm p.scalarLines
  merges : p.Named → Merges p.scalarLines scalars

/-- The rows of a page on which some lines of counters and gauges stay. -/
def rowsWith (p : Page) (scalars : List Line) : List String :=
  p.families.flatMap Family.header ++ (scalars ++ p.histogramLines).map Line.text

end Page

section Families
variable {f : Family} {families : List Family} {kept scalars : List Line}

theorem scalarLines_cons : Page.scalarLines ⟨f :: families⟩ =
    (if f.shape = .histogram then [] else f.lines) ++ Page.scalarLines ⟨families⟩ := by
  by_cases hshape : f.shape = .histogram <;> simp [Page.scalarLines, hshape]

theorem histogramLines_cons : Page.histogramLines ⟨f :: families⟩ =
    (if f.shape = .histogram then f.lines else []) ++ Page.histogramLines ⟨families⟩ := by
  by_cases hshape : f.shape = .histogram <;> simp [Page.histogramLines, hshape]

theorem Page.Leaves.cons_histogram (h : Page.Leaves ⟨families⟩ scalars)
    (hshape : f.shape = .histogram) : Page.Leaves ⟨f :: families⟩ scalars := by
  have hsame : Page.scalarLines ⟨f :: families⟩ = Page.scalarLines ⟨families⟩ := by
    rw [scalarLines_cons, if_pos hshape, List.nil_append]
  constructor
  case known => exact hsame ▸ h.known
  case all => exact fun hapart => hsame ▸ h.all (List.forall_mem_cons.1 hapart).2
  case merges =>
    intro hnamed
    have hnames := hnamed.names
    rw [List.filter_cons_of_neg (by simp [hshape])] at hnames
    exact hsame ▸ h.merges ⟨hnames, (List.forall_mem_cons.1 hnamed.lines).2⟩

theorem Page.Leaves.cons_scalar (h : Page.Leaves ⟨families⟩ scalars)
    (hshape : f.shape ≠ .histogram) (hkept : Merges f.lines kept) :
    Page.Leaves ⟨f :: families⟩ (kept ++ scalars) := by
  have hlines : Page.scalarLines ⟨f :: families⟩ = f.lines ++ Page.scalarLines ⟨families⟩ := by
    rw [scalarLines_cons, if_neg hshape]
  constructor
  case known =>
    intro l hl
    rw [hlines]
    exact List.mem_append.2 ((List.mem_append.1 hl).imp (hkept.known l) (h.known l))
  case all =>
    intro hapart
    obtain ⟨hfirst, hrest⟩ := List.forall_mem_cons.1 hapart
    rw [hlines]
    exact (hkept.perm (hfirst hshape)).append (h.all hrest)
  case merges =>
    rintro ⟨hnames, hnamed⟩
    obtain ⟨hfirst, hrest⟩ := List.forall_mem_cons.1 hnamed
    rw [List.filter_cons_of_pos (by simp [hshape]), List.map_cons, List.nodup_cons] at hnames
    rw [hlines]
    refine hkept.append (h.merges ⟨hnames.2, hrest⟩) fun l hl m hm hsame => ?_
    obtain ⟨g, hg, hm⟩ := List.mem_flatMap.1 hm
    obtain ⟨hmem, hscalar⟩ := List.mem_filter.1 hg
    -- Lines that are written alike have one name, but their families have two.
    have hname : f.name = g.name := by
      rw [← hfirst hshape l hl, ← hrest g hmem (of_decide_eq_true hscalar) m hm]
      exact congrArg Prod.fst hsame
    exact hnames.1 (hname ▸ List.mem_map_of_mem hg)

end Families

/-- Blocks that list families one by one have the rows of all of them. -/
theorem flatten_blocks {families : List Family} {blocks : List (List String)}
    (hb : List.Forall₂ Family.Lists families blocks) :
    ∃ scalars, Page.Leaves ⟨families⟩ scalars ∧
      blocks.flatten.Perm (Page.rowsWith ⟨families⟩ scalars) := by
  induction hb with
  | nil =>
    exact ⟨[], ⟨fun _ hl => absurd hl List.not_mem_nil, fun _ => .refl _, fun _ =>
      merges_merged []⟩, .refl _⟩
  | @cons f _ families blocks hf _ ih =>
    obtain ⟨kept, body, hkept, hbody, rfl⟩ := hf
    obtain ⟨scalars, hleaves, hrows⟩ := ih
    have hstep (more : List Line)
        (hmore : (kept ++ (scalars ++ Page.histogramLines ⟨families⟩)).Perm more) :
        ((f.header ++ body) ++ blocks.flatten).Perm
          ((f.header ++ families.flatMap Family.header) ++ more.map Line.text) := by
      have hall := (hbody.append hrows).trans
        (List.perm_append_comm_assoc (kept.map Line.text) _ _)
      rw [← List.map_append] at hall
      rw [List.append_assoc, List.append_assoc]
      exact (hall.trans ((hmore.map Line.text).append_left _)).append_left _
    by_cases hshape : f.shape = .histogram
    · refine ⟨scalars, hleaves.cons_histogram hshape, ?_⟩
      rw [Page.rowsWith, histogramLines_cons, if_pos hshape, ← hkept.histogram hshape]
      exact hstep _ (List.perm_append_comm_assoc ..)
    · refine ⟨kept ++ scalars, hleaves.cons_scalar hshape (hkept.scalar hshape), ?_⟩
      rw [Page.rowsWith, histogramLines_cons, if_neg hshape, List.nil_append, List.append_assoc]
      exact hstep _ (.refl _)

section Rows
variable {p : Page} (h : ∀ f ∈ p.families, f.Readable) {scalars : List Line}
  (hs : p.Leaves scalars)
include h

theorem readable_of_mem {l : Line} (hl : l ∈ p.scalarLines ++ p.histogramLines) : l.Readable := by
  rcases List.mem_append.1 hl with hl | hl
  · obtain ⟨f, hf, hl⟩ := List.mem_flatMap.1 hl
    exact (h f (List.mem_of_mem_filter hf)).lines l hl
  · obtain ⟨f, hf, hl⟩ := List.mem_flatMap.1 hl
    exact (h f (List.mem_of_mem_filter hf)).lines l hl

include hs

theorem readable_left : ∀ l ∈ scalars ++ p.histogramLines, l.Readable := fun _ hl =>
  readable_of_mem h (List.mem_append.2 ((List.mem_append.1 hl).imp_left (hs.known _)))

/-- Every row of a page is a comment or one way to write a sample, and none is empty. -/
theorem written_rowsWith : ∀ row ∈ p.rowsWith scalars,
    WrittenRow (held row.toList) row.toList ∧ row.toList ≠ [] := by
  intro row hrow
  rcases List.mem_append.1 hrow with hrow | hrow
  · obtain ⟨f, hf, hrow⟩ := List.mem_flatMap.1 hrow
    have hheader := written_header (h f hf) row hrow
    exact ⟨(held_row hheader).symm ▸ hheader, header_nonempty hrow⟩
  · obtain ⟨l, hl, rfl⟩ := List.mem_map.1 hrow
    have hline := readable_left h hs l hl
    have hwritten := WrittenRow.sample (written_line hline)
    exact ⟨(held_row hwritten).symm ▸ hwritten, by simp [Line.text, hline.name.nonempty]⟩

/-- A page holds the samples of the lines that stay on it. -/
theorem held_rowsWith : ((p.rowsWith scalars).flatMap fun row => held row.toList) =
    (scalars ++ p.histogramLines).map Line.seen := by
  have hheaders : ((p.families.flatMap Family.header).flatMap fun row => held row.toList) = [] := by
    rw [List.flatMap_eq_nil_iff]
    intro row hrow
    obtain ⟨f, hf, hrow⟩ := List.mem_flatMap.1 hrow
    exact held_row (written_header (h f hf) row hrow)
  rw [Page.rowsWith, List.flatMap_append, hheaders, List.nil_append, List.flatMap_map,
    List.map_eq_flatMap]
  exact List.flatMap_congr fun l hl =>
    held_row (.sample (written_line (readable_left h hs l hl)))

end Rows

/-! ### Reading a page -/

/-- The rows of a text: its lines, but for empty ones. -/
def rows (text : String) : List String :=
  ((text.toList.splitOn '\n').filter fun row => row ≠ []).map String.ofList

theorem splitOn_rows (rows : List (List Char)) (h : ∀ row ∈ rows, '\n' ∉ row) :
    (rows.flatMap (· ++ ['\n'])).splitOn '\n' = rows ++ [[]] := by
  induction rows with
  | nil => rfl
  | cons row rest ih =>
    rw [List.forall_mem_cons] at h
    have hrow : ∀ c ∈ row, (c == '\n') = false := fun c hc =>
      beq_eq_false_iff_ne.2 fun he => h.1 (he ▸ hc)
    rw [List.flatMap_cons, List.append_assoc, List.singleton_append, List.splitOn,
      List.splitOnP_append_cons_of_forall_mem hrow '\n' (beq_self_eq_true _)]
    exact congrArg (row :: ·) (ih h.2)

/-- A text of blocks has the rows of its blocks. -/
theorem rows_listing {blocks : List (List String)}
    (h : ∀ row ∈ blocks.flatten, '\n' ∉ row.toList ∧ row.toList ≠ []) :
    rows (listing blocks) = blocks.flatten := by
  have hblank : ∀ row ∈ rowsOf blocks, '\n' ∉ row := by
    intro row hrow
    obtain ⟨block, hblock, hrow⟩ := List.mem_flatMap.1 hrow
    rcases List.mem_append.1 hrow with hrow | hrow
    · obtain ⟨text, htext, rfl⟩ := List.mem_map.1 hrow
      exact (h text (List.mem_flatten.2 ⟨block, hblock, htext⟩)).1
    · rw [List.mem_singleton.1 hrow]
      exact List.not_mem_nil
  have hfilter (block : List String) (hblock : block ∈ blocks) :
      (block.map String.toList ++ [[]]).filter (fun row => row ≠ []) = block.map String.toList := by
    have hnonempty : ∀ row ∈ block.map String.toList, decide (row ≠ []) = true := by
      intro row hrow
      obtain ⟨text, htext, rfl⟩ := List.mem_map.1 hrow
      exact decide_eq_true (h text (List.mem_flatten.2 ⟨block, hblock, htext⟩)).2
    rw [List.filter_append, List.filter_eq_self.2 hnonempty]
    simp
  rw [rows, toList_listing, splitOn_rows _ hblank, List.filter_append, rowsOf, List.filter_flatMap,
    List.flatMap_congr hfilter, ← List.map_flatMap]
  simp [List.flatMap_id']

theorem Page.Arranges.flatten_perm {p : Page} {listed : List (List String)} (h : p.Arranges listed) :
    ∃ scalars, p.Leaves scalars ∧ listed.flatten.Perm (p.rowsWith scalars) := by
  obtain ⟨blocks, hblocks, hperm⟩ := h
  obtain ⟨scalars, hleaves, hflatten⟩ := flatten_blocks hblocks
  exact ⟨scalars, hleaves, hperm.flatten.trans hflatten⟩

section Listings
variable {p : Page} (h : ∀ f ∈ p.families, f.Readable)
include h

theorem Page.Arranges.rows_eq {listed : List (List String)} (hl : p.Arranges listed) :
    rows (listing listed) = listed.flatten := by
  obtain ⟨scalars, hleaves, hflatten⟩ := hl.flatten_perm
  exact rows_listing fun row hrow =>
    (written_rowsWith h hleaves row (hflatten.mem_iff.1 hrow)).imp_left WrittenRow.row

variable {text : String} (ht : p.Lists text)
include ht

/-- However a page of readable lines is listed, its rows are its headers, the lines of counters and
gauges that stay and all lines of histograms. -/
theorem rows_of_lists :
    ∃ scalars, p.Leaves scalars ∧ (rows text).Perm (p.rowsWith scalars) := by
  obtain ⟨listed, hlisted, rfl⟩ := ht
  rw [hlisted.rows_eq h]
  exact hlisted.flatten_perm

/-- It is read as what is seen of the lines that stay on it. -/
theorem read_seen : ∃ samples scalars, read text = .ok samples ∧ p.Leaves scalars ∧
    samples.Perm ((scalars ++ p.histogramLines).map Line.seen) := by
  obtain ⟨listed, hlisted, rfl⟩ := ht
  obtain ⟨scalars, hleaves, hflatten⟩ := hlisted.flatten_perm
  have hempty : WrittenRow [] [] := .blank gap_nil
  have hrows : ∀ row ∈ rowsOf listed, WrittenRow (held row) row := by
    intro row hrow
    obtain ⟨block, hblock, hrow⟩ := List.mem_flatMap.1 hrow
    rcases List.mem_append.1 hrow with hrow | hrow
    · obtain ⟨text, htext, rfl⟩ := List.mem_map.1 hrow
      have hmem := hflatten.mem_iff.1 (List.mem_flatten.2 ⟨block, hblock, htext⟩)
      exact (written_rowsWith h hleaves text hmem).1
    · obtain rfl := List.mem_singleton.1 hrow
      rwa [held_row hempty]
  have hheld (block : List String) : (block.map String.toList ++ [[]]).flatMap held =
      block.flatMap fun row => held row.toList := by
    rw [List.flatMap_append, List.flatMap_map, List.flatMap_singleton, held_row hempty,
      List.append_nil]
  refine ⟨(rowsOf listed).flatMap held, scalars, ?_, hleaves, ?_⟩
  · rw [read, toList_listing]
    exact readLines_rows _ hrows
  · rw [rowsOf, List.flatMap_assoc, ← held_rowsWith h hleaves]
    simp only [hheld]
    rw [← List.flatMap_id] at hflatten
    have hrows := hflatten.flatMap_right fun row => held row.toList
    rwa [List.flatMap_assoc] at hrows

end Listings

/-! ### Pages on which merging does not show -/

theorem Page.Apart.isCertain {p : Page} (h : p.Apart) : p.isCertain = true := by
  refine List.all_eq_true.2 fun f hf => ?_
  rw [Family.isCertain, Bool.or_eq_true, decide_eq_true_eq]
  refine or_iff_not_imp_left.2 fun hshape => ?_
  refine List.all_eq_true.2 fun l hl => List.all_eq_true.2 fun m hm => ?_
  by_cases hwritten : l.written = m.written
  · rw [List.inj_on_of_nodup_map (h f hf hshape) hl hm hwritten]
    simp
  · simp [hwritten]

/-- Where merging does not show, a family is always listed with the same rows. -/
theorem Family.Lists.perm {f : Family} (hf : f.isCertain = true) {block : List String}
    (h : f.Lists block) : block.Perm f.texts := by
  obtain ⟨kept, body, hkept, hbody, rfl⟩ := h
  refine .append_left _ (hbody.trans ?_)
  rw [Family.body]
  by_cases hshape : f.shape = .histogram
  · rw [hkept.histogram hshape, hshape]
  · rw [Family.isCertain, decide_eq_false hshape, Bool.false_or] at hf
    have hsame : ∀ l ∈ f.lines, ∀ m ∈ f.lines, l.written = m.written → l.text = m.text := by
      intro l hl m hm hwritten
      simpa [hwritten] using List.all_eq_true.1 (List.all_eq_true.1 hf l hl) m hm
    have hperm := (hkept.scalar hshape).texts_perm (merges_merged _) hsame
    cases hs : f.shape with
    | histogram => exact absurd hs hshape
    | counter => exact hperm.trans (List.mergeSort_perm _ _).symm
    | gauge => exact hperm.trans (List.mergeSort_perm _ _).symm

theorem flatten_certain {families : List Family} {blocks : List (List String)}
    (hb : List.Forall₂ Family.Lists families blocks) (h : ∀ f ∈ families, f.isCertain = true) :
    blocks.flatten.Perm (families.map Family.texts).flatten := by
  induction hb with
  | nil => exact .refl _
  | cons hf _ ih =>
    rw [List.forall_mem_cons] at h
    exact (hf.perm h.1).append (ih h.2)

/-- Where merging does not show, a page is always listed with the same rows. -/
theorem Page.Arranges.lines_perm {p : Page} (hp : p.isCertain = true) {listed : List (List String)}
    (h : p.Arranges listed) : listed.flatten.Perm p.lines := by
  obtain ⟨blocks, hblocks, hperm⟩ := h
  have htexts := flatten_certain hblocks (List.all_eq_true.1 hp)
  exact (hperm.flatten.trans htexts).trans (List.mergeSort_perm _ _).symm.flatten

/-- **Two pages that are found to have the same lines have the same rows**, however each of them is
listed and whichever lines stay. -/
theorem rows_of_sameLines {p q : Page} (h : p.sameLines q = true)
    (hp : ∀ f ∈ p.families, f.Readable) (hq : ∀ f ∈ q.families, f.Readable) {text other : String}
    (ht : p.Lists text) (ho : q.Lists other) : (rows text).Perm (rows other) := by
  rw [Page.sameLines, Bool.and_eq_true, Bool.and_eq_true, decide_eq_true_eq] at h
  obtain ⟨⟨hcertain, hcertain'⟩, hsame⟩ := h
  obtain ⟨listed, hlisted, rfl⟩ := ht
  obtain ⟨listed', hlisted', rfl⟩ := ho
  rw [hlisted.rows_eq hp, hlisted'.rows_eq hq]
  exact (hlisted.lines_perm hcertain).trans (hsame ▸ (hlisted'.lines_perm hcertain').symm)

end Roomwatch.Exposition
