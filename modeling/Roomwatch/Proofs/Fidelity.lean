import Mathlib
import Roomwatch.Proofs.Drains
import Roomwatch.Proofs.Shown

/-! A reporter's page is faithful.

The texts that a reporter is given reach its page as label values. As long as they are
clean, its series are legible (`legible_id`) and its recorder stays presentable
(`presentable_serve`), and so every page of it is read as exactly its series, however it is
listed and whatever quotes, braces, commas or line ends those texts hold
(`faithful_expose`). -/
namespace Roomwatch

open Exposition
open Number (Measure)
open Text (isBlank)

/-! ### Clean texts -/

/-- The text that an event is told with: a kind or an error. -/
def Event.text? : Event → Option String
  | .trackPublished kind | .trackUnpublished kind => some kind
  | .publishAttempted kind | .publishSucceeded kind => some kind
  | .subscribed kind | .unsubscribed kind => some kind
  | .subscribeFailed error _ => some error
  | _ => none

/-- No text that a reporter is given holds a backslash before a backslash, a quote or a line
feed. -/
structure CleanTexts (s : Settings) (h : History) : Prop where
  node : Clean s.node.toList
  environment : Clean s.environment.toList
  told : ∀ timed ∈ h, ∀ text ∈ timed.2.text?, Clean text.toList

theorem clean_labels_acquired {e : Event} {o : Outlet} (ht : ∀ text ∈ e.text?, Clean text.toList)
    (ho : e.acquired? = some o) : ∀ label ∈ o.labels, Clean label.2.toList := by
  have attempt : Clean attemptLabel.toList := clean_of_notMem (by decide)
  have success : Clean successLabel.toList := clean_of_notMem (by decide)
  have failure : Clean failureLabel.toList := clean_of_notMem (by decide)
  have refusal (reason : Refusal) : Clean reason.label.toList :=
    clean_of_notMem (by cases reason <;> decide)
  cases e with
  | roomStarted | roomEnded start | participantJoined | participantLeft | subscribeAttempted =>
    contradiction
  | trackPublished kind | trackUnpublished kind | subscribed kind | unsubscribed kind =>
    obtain rfl := Option.some.inj ho
    exact List.forall_mem_singleton.2 (ht kind rfl)
  | publishAttempted kind =>
    obtain rfl := Option.some.inj ho
    exact List.forall_mem_cons.2 ⟨ht kind rfl, List.forall_mem_singleton.2 attempt⟩
  | publishSucceeded kind =>
    obtain rfl := Option.some.inj ho
    exact List.forall_mem_cons.2 ⟨ht kind rfl, List.forall_mem_singleton.2 success⟩
  | subscribeFailed error byUser =>
    obtain rfl := Option.some.inj ho
    exact List.forall_mem_cons.2 ⟨failure, List.forall_mem_singleton.2 (ht error rfl)⟩
  | subscribeRefused reason =>
    obtain rfl := Option.some.inj ho
    exact List.forall_mem_cons.2 ⟨failure, List.forall_mem_singleton.2 (refusal reason)⟩

theorem clean_labels_fixed {o : Outlet} (ho : o ∈ Outlet.fixed) :
    ∀ label ∈ o.labels, Clean label.2.toList := by
  have hplain : ∀ o ∈ Outlet.fixed, ∀ label ∈ o.labels, '\\' ∉ label.2.toList := by decide
  exact fun label hlabel => clean_of_notMem (hplain o ho label hlabel)

/-- A character of a metric name. -/
theorem continuesName_facts {c : Char} (h : Settings.continuesName c = true) :
    isBlank c = false ∧ c ≠ '{' ∧ c ≠ '#' := by
  have hc : (48 ≤ c.toNat ∧ c.toNat ≤ 57) ∨ (65 ≤ c.toNat ∧ c.toNat ≤ 90) ∨
      (97 ≤ c.toNat ∧ c.toNat ≤ 122) ∨ c.toNat = 95 := by
    have hbar : c = '_' ↔ c.toNat = 95 := (Char.toNat_inj (c := c) (d := '_')).symm
    simp only [Settings.continuesName, Char.isAlphanum, Char.isAlpha, Char.isUpper, Char.isLower,
      Char.isDigit, Bool.or_eq_true, Bool.and_eq_true, decide_eq_true_eq, beq_iff_eq, hbar] at h
    simp only [ge_iff_le, UInt32.le_iff_toNat_le] at h
    have hletters : 'A'.val.toNat = 65 ∧ 'Z'.val.toNat = 90 ∧ 'a'.val.toNat = 97 ∧
        'z'.val.toNat = 122 ∧ '0'.val.toNat = 48 ∧ '9'.val.toNat = 57 := by decide
    have hval : c.val.toNat = c.toNat := rfl
    omega
  refine ⟨?_, ?_, ?_⟩
  · simp only [isBlank, Bool.or_eq_false_iff, Bool.and_eq_false_iff, decide_eq_false_iff_not,
      beq_eq_false_iff_ne]
    omega
  · intro he
    subst he
    exact absurd hc (by decide)
  · intro he
    subst he
    exact absurd hc (by decide)

theorem isName_of_scope {scope : String} (h : Settings.isScope scope = true) : IsName scope := by
  obtain ⟨c, rest, hcons⟩ : ∃ c rest, scope.toList = c :: rest := by
    cases hl : scope.toList with
    | nil => simp [Settings.isScope, hl] at h
    | cons c rest => exact ⟨c, rest, rfl⟩
  simp only [Settings.isScope, hcons, Bool.and_eq_true, List.all_eq_true] at h
  have hall : ∀ d ∈ scope.toList, Settings.continuesName d = true := by
    intro d hd
    rw [hcons] at hd
    rcases List.mem_cons.1 hd with rfl | hd
    · have := h.1
      simp only [Settings.startsName, Settings.continuesName, Char.isAlphanum, Bool.or_eq_true] at *
      exact this.imp .inl id
    · exact h.2 d hd
  refine ⟨by simp [hcons], ?_, fun d hd => (continuesName_facts (hall d hd)).1, ?_⟩
  · exact fun hd => (continuesName_facts (hall _ hd)).2.1 rfl
  · exact fun hd => (continuesName_facts (hall _ (List.mem_of_mem_head? hd))).2.2 rfl

theorem isName_metricName {s : Settings} (hs : s.check = .ok ()) (m : Metric) :
    IsName (m.name s) := by
  have hscope := isName_of_scope ((Settings.check_eq_ok_iff s).1 hs).2
  have hbar : IsName (s.scope ++ "_") := hscope.append _ (by decide) (by simp [isBlank])
  have hsubsystem : IsName (s.scope ++ "_" ++ m.subsystem) :=
    hbar.append _ (by cases m <;> decide) (by cases m <;> simp [Metric.subsystem, isBlank])
  have hbar : IsName (s.scope ++ "_" ++ m.subsystem ++ "_") :=
    hsubsystem.append _ (by decide) (by simp [isBlank])
  exact hbar.append _ (by cases m <;> decide) (by cases m <;> simp [Metric.ownName, isBlank])

/-- The keys of all labels. -/
def labelKeys : List String := ["node_id", "node_type", "env", "kind", "state", "error"]

theorem isKey_of_mem {key : String} (h : key ∈ labelKeys) : IsKey key := by
  simp only [labelKeys, List.mem_cons, List.not_mem_nil, or_false] at h
  rcases h with rfl | rfl | rfl | rfl | rfl | rfl <;>
    exact ⟨by decide, by decide, by simp [isBlank], by simp [isBlank]⟩

theorem isKey_id (s : Settings) (o : Outlet) : ∀ label ∈ (o.id s).labels, IsKey label.1 := by
  refine fun label hlabel => isKey_of_mem ?_
  rcases List.mem_append.1 hlabel with hlabel | hlabel
  · simp only [Settings.identity, List.mem_cons, List.not_mem_nil, or_false] at hlabel
    rcases hlabel with rfl | rfl | rfl <;> simp [labelKeys]
  · have hkeys : o.labels.map Prod.fst ⊆ labelKeys := by
      cases o <;> simp [Outlet.labels, labelKeys]
    exact hkeys (List.mem_map_of_mem hlabel)

/-- The name and the keys of a series are readable, whatever texts are its values. -/
theorem readable_id {s : Settings} (hs : s.check = .ok ()) (o : Outlet) : (o.id s).Readable :=
  ⟨isName_metricName hs o.metric, isKey_id s o⟩

theorem clean_labels {h : History} (hc : ∀ timed ∈ h, ∀ text ∈ timed.2.text?, Clean text.toList)
    {o : Outlet} (ho : .acquire o ∈ Desk.life h) : ∀ label ∈ o.labels, Clean label.2.toList := by
  rcases (acquire_mem_life h o).1 ho with ho | ⟨e, ⟨now, he⟩, ho⟩
  · exact clean_labels_fixed ho
  · exact clean_labels_acquired (hc _ he) ho

/-- The series that a reporter acquires are legible. -/
theorem legible_id {s : Settings} {h : History} (hs : s.check = .ok ()) (hc : CleanTexts s h)
    {o : Outlet} (ho : .acquire o ∈ Desk.life h) : (o.id s).Legible := by
  have hrole : Clean s.role.label.toList := clean_of_notMem (by cases s.role <;> decide)
  have hreadable := readable_id hs o
  refine ⟨hreadable.name, hreadable.keys, fun label hlabel => ?_⟩
  rcases List.mem_append.1 hlabel with hlabel | hlabel
  · simp only [Settings.identity, List.mem_cons, List.not_mem_nil, or_false] at hlabel
    rcases hlabel with rfl | rfl | rfl
    · exact hc.node
    · exact hrole
    · exact hc.environment
  · exact clean_labels hc.told ho label hlabel

theorem legible_booked {α : Type} [Measure α] {s : Settings} {h : History}
    (hs : s.check = .ok ()) (hc : CleanTexts s h) (shape : Shape) :
    ∀ id ∈ (Desk.booked α s h).keys shape, id.Legible := by
  intro id hid
  obtain ⟨o, ho, -, rfl⟩ := (booked_iff s _ shape id).1 ((mem_keys_booked s _ shape id).1 hid)
  exact legible_id hs hc ho

/-! ### Pages of reporters -/

/-- A page that shows exactly the series of a reporter after a history, with the values that
its calls gave them: every text that lists it, in whatever order, is read as one sample for
each counter and gauge, and as thirteen for the one histogram. -/
structure Faithful (s : Settings) (h : History) (page : Page) (r : Recorder Float) : Prop where
  series : ∀ shape id, id ∈ r.registry.keys shape ↔ Booked s h shape id
  distinct : ∀ shape, (r.registry.keys shape).Nodup
  values : r.registry.Alike (Desk.booked Float s h)
  lifetimes : r.settled.keys = [s.series "room_duration_seconds" []]
  samples : ∀ text, page.Lists text → ∃ samples, read text = .ok samples ∧ r.Shows samples ∧
    samples.length = r.registry.counters.length + r.registry.gauges.length + 13

theorem keys_settled_drain {α : Type} [Measure α] (r : Recorder α) :
    r.drain.settled.keys = r.registry.histograms.keys := by
  simp [Recorder.drain, Shelf.keys]

theorem presentable_serve (keeps : Outlet → Bool) {s : Settings} (exposed : Bool)
    {calls : List Call} (hs : s.check = .ok ()) (hc : CleanTexts s (events calls)) :
    ((Desk.opened keeps s exposed {}).serve keeps calls).recorder.drain.Presentable := by
  have halike := Desk.alike_booked (α := Float) keeps s exposed calls
  have hdrained := (Registry.alike_emptied _).trans halike
  have hlegible := legible_booked (α := Float) hs hc
  have hframed := (Desk.framed_serve keeps (Desk.framed_opened keeps s exposed) calls).drain
  constructor
  case series =>
    intro shape id hid
    refine hlegible shape id ?_
    rw [← hdrained.keys]
    exact hid
  case distinct =>
    intro shape
    have hnodup := nodup_keys_booked (α := Float) s (events calls) shape
    rw [← hdrained.keys] at hnodup
    exact hnodup
  case histograms =>
    intro id hid
    rw [keys_settled_drain, halike.histograms] at hid
    exact hlegible .histogram id hid
  case levels =>
    intro entry hentry
    refine whole_booked s (events calls) entry ?_
    rw [← hdrained.gauges]
    exact hentry
  case buckets => exact hframed.buckets
  case help => exact hframed.help

/-- **The page of a reporter is read as exactly its series**: whatever it holds on to, whatever
is reported and however often the recorder is drained in between. -/
theorem faithful_expose (keeps : Outlet → Bool) (s : Settings) (exposed : Bool) (calls : List Call)
    (hs : s.check = .ok ()) (hc : CleanTexts s (events calls)) :
    let d := (Desk.opened keeps s exposed ({} : Recorder Float)).serve keeps calls
    Faithful s (events calls) d.recorder.expose.1 d.recorder.expose.2 := by
  intro d
  have halike : d.recorder.registry.Alike _ := Desk.alike_booked keeps s exposed calls
  have hdrained := (Registry.alike_emptied d.recorder.registry).trans halike
  have hlifetimes : d.recorder.drain.settled.keys = [s.series "room_duration_seconds" []] := by
    rw [keys_settled_drain, halike.histograms]
    exact keys_histogram_booked s (events calls)
  constructor
  case series =>
    intro shape id
    rw [← mem_keys_booked (α := Float), ← hdrained.keys]
    rfl
  case distinct =>
    intro shape
    have := nodup_keys_booked (α := Float) s (events calls) shape
    rw [← hdrained.keys] at this
    exact this
  case values => exact hdrained
  case lifetimes => exact hlifetimes
  case samples =>
    intro text htext
    obtain ⟨samples, hread, hshows⟩ :=
      Recorder.shows_listing (presentable_serve keeps exposed hs hc) htext
    have hlength := hshows.length_eq
    rw [hlifetimes] at hlength
    exact ⟨samples, hread, hshows, hlength⟩

/-- Texts that hold all that a reader might stumble over: quotes, braces, commas, line ends. -/
theorem faithful_expose_mixed :
    let s : Settings := ⟨"a \"b\"\x7bc=\"d\"\x7d, # e\\f", .media, "\r\n\t,", "sfu_1"⟩
    let calls : List Call := [.event ⟨0⟩ (.subscribeFailed "\"\n# \x7d 1\n" true), .drain,
      .event ⟨5⟩ (.trackPublished ",le=\"\\u"), .event ⟨7⟩ (.roomEnded none)]
    let d := (Desk.opened Outlet.isKept s true ({} : Recorder Float)).serve Outlet.isKept calls
    s.check = .ok () ∧ CleanTexts s (events calls) ∧
      Faithful s (events calls) d.recorder.expose.1 d.recorder.expose.2 := by
  intro s calls d
  have hs : s.check = .ok () := by decide
  have hc : CleanTexts s (events calls) := by
    refine ⟨by simp [s, Clean], by simp [s, Clean], ?_⟩
    simp [calls, events, Event.text?, Clean]
  exact ⟨hs, hc, faithful_expose Outlet.isKept s true calls hs hc⟩

end Roomwatch
