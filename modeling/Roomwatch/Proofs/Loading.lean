import Mathlib
import Roomwatch.Proofs.Crew
import Roomwatch.Proofs.Residence

/-! Settings from named variables.

What names a role and what can be a scope is said here without a reader: a role goes by its
label, with ASCII letters in either case (`Role.Named`), and a scope matches the pattern
`[a-zA-Z_][a-zA-Z0-9_]*` (`Settings.scopePattern`). Settings are loaded just from variables
that are all in order (`Settings.Loadable`), they are then what the variables say, and
every reporter can be opened with them; otherwise the first fault in a fixed order is told
(`Settings.Fails`). All sound settings come from variables of their own (`loading_variables`). -/
namespace Roomwatch

open Number (Measure)

/-! ### Letters -/

def lowerLetters : List Char :=
  ['a', 'b', 'c', 'd', 'e', 'f', 'g', 'h', 'i', 'j', 'k', 'l', 'm', 'n', 'o', 'p', 'q', 'r',
   's', 't', 'u', 'v', 'w', 'x', 'y', 'z']

def upperLetters : List Char :=
  ['A', 'B', 'C', 'D', 'E', 'F', 'G', 'H', 'I', 'J', 'K', 'L', 'M', 'N', 'O', 'P', 'Q', 'R',
   'S', 'T', 'U', 'V', 'W', 'X', 'Y', 'Z']

def decimalDigits : List Char :=
  ['0', '1', '2', '3', '4', '5', '6', '7', '8', '9']

/-- Characters that differ in ASCII case at most. -/
def SameLetter (c d : Char) : Prop :=
  c = d ∨ (c, d) ∈ lowerLetters.zip upperLetters ∨ (d, c) ∈ lowerLetters.zip upperLetters

/-- What is checked for every ASCII character holds of every character of so small a code. -/
theorem of_ascii {P : Char → Prop} [DecidablePred P]
    (h : ((List.range 128).all fun n => P (Char.ofNat n)) = true) {c : Char}
    (hc : c.toNat < 128) : P c := by
  have hchar := of_decide_eq_true (List.all_eq_true.1 h c.toNat (List.mem_range.2 hc))
  rwa [Char.ofNat_toNat] at hchar

/-- What is checked for some characters holds of each of them. -/
theorem of_chars {P : Char → Prop} [DecidablePred P] {chars : List Char}
    (h : (chars.all fun c => P c) = true) {c : Char} (hc : c ∈ chars) : P c :=
  of_decide_eq_true (List.all_eq_true.1 h c hc)

/-- Only the lower case of a letter and the letter itself become an upper case letter. -/
theorem toUpper_eq_iff {d : Char} (hd : d ∈ upperLetters) (c : Char) :
    c.toUpper = d ↔ SameLetter c d := by
  constructor
  · intro h
    by_cases hlower : c.isLower = true
    · have hc : c.toNat < 128 := by
        simp only [Char.isLower, Bool.and_eq_true, decide_eq_true_eq,
          UInt32.le_iff_toNat_le] at hlower
        exact hlower.2.trans_lt (by decide)
      have hpair : c.isLower = true → (c, c.toUpper) ∈ lowerLetters.zip upperLetters :=
        of_ascii (P := fun c => c.isLower = true → (c, c.toUpper) ∈ lowerLetters.zip upperLetters)
          (by decide +kernel) hc
      exact .inr (.inl (h ▸ hpair hlower))
    · have hsame : c.toUpper = c := by
        rw [Char.toUpper, dif_neg]
        simpa [Char.isLower, and_comm] using hlower
      exact .inl (hsame.symm.trans h)
  · rintro (rfl | hpair | hpair)
    · exact of_chars (P := fun d => d.toUpper = d) (by decide +kernel) hd
    · have hpairs : ((lowerLetters.zip upperLetters).all fun p => p.1.toUpper = p.2) = true := by
        decide +kernel
      exact of_decide_eq_true (List.all_eq_true.1 hpairs _ hpair)
    · have hlower : d ∉ upperLetters :=
        of_chars (P := fun d => d ∉ upperLetters) (by decide +kernel) (List.of_mem_zip hpair).1
      exact absurd hd hlower

/-! ### Roles -/

namespace Role

/-- A text that is the label of a role up to ASCII case. -/
def Named (text : String) (role : Role) : Prop :=
  List.Forall₂ SameLetter text.toList role.label.toList

theorem upper_label (role : Role) : ∀ d ∈ role.label.toList, d ∈ upperLetters := by
  have hall : (role.label.toList.all fun d => d ∈ upperLetters) = true := by
    cases role <;> decide +kernel
  exact fun d hd => of_chars hall hd

theorem named_iff (text : String) (role : Role) :
    Named text role ↔ role.label = text.map Char.toUpper := by
  have hletters (own others : List Char) (h : ∀ d ∈ own, d ∈ upperLetters) :
      List.Forall₂ SameLetter others own ↔ List.Forall₂ (fun c d => c.toUpper = d) others own := by
    induction own generalizing others with
    | nil => simp
    | cons d rest ih =>
      rw [List.forall_mem_cons] at h
      cases others with
      | nil => simp
      | cons c more => rw [List.forall₂_cons, List.forall₂_cons, toUpper_eq_iff h.1, ih more h.2]
  rw [Named, hletters _ _ role.upper_label, ← String.toList_inj, String.toList_map, eq_comm,
    ← List.forall₂_eq_eq_eq, List.forall₂_map_left_iff]

/-- A text names one role at most. -/
theorem Named.unique {text : String} {a b : Role} (ha : Named text a) (hb : Named text b) :
    a = b :=
  label_injective (((named_iff text a).1 ha).trans ((named_iff text b).1 hb).symm)

theorem read_of_named {text : String} {role : Role} (h : Named text role) :
    read text = .ok role := by
  rw [read]
  split
  · next found hfound =>
    have hlabel := List.find?_some hfound
    rw [decide_eq_true_eq, ← named_iff] at hlabel
    rw [hlabel.unique h]
  · next hnone =>
    rw [List.find?_eq_none] at hnone
    have hall : role ∈ all := by cases role <;> decide
    exact absurd (decide_eq_true ((named_iff text role).1 h)) (hnone role hall)

theorem read_of_unnamed {text : String} (h : ∀ role, ¬ Named text role) :
    read text = .error (.unknownRole text) := by
  rw [read]
  split
  · next found hfound =>
    have hlabel := List.find?_some hfound
    rw [decide_eq_true_eq, ← named_iff] at hlabel
    exact absurd hlabel (h found)
  · rfl

end Role

/-! ### Scopes -/

namespace Settings

/-- One of some characters. -/
def oneOf (chars : List Char) : RegularExpression Char := (chars.map RegularExpression.char).sum

/-- The pattern of a scope, `[a-zA-Z_][a-zA-Z0-9_]*`. -/
def scopePattern : RegularExpression Char :=
  oneOf (lowerLetters ++ upperLetters ++ ['_']) *
    (oneOf (lowerLetters ++ upperLetters ++ decimalDigits ++ ['_'])).star

theorem mem_oneOf (chars text : List Char) :
    text ∈ (oneOf chars).matches' ↔ ∃ c ∈ chars, text = [c] := by
  induction chars with
  | nil => simp [oneOf]
  | cons c rest ih =>
    rw [oneOf, List.map_cons, List.sum_cons, RegularExpression.matches'_add, Language.mem_add,
      RegularExpression.matches'_char, ← oneOf, ih, List.exists_mem_cons_iff]
    rfl

theorem mem_star_oneOf (chars text : List Char) :
    text ∈ (oneOf chars).star.matches' ↔ ∀ c ∈ text, c ∈ chars := by
  rw [RegularExpression.matches'_star, Language.mem_kstar]
  constructor
  · rintro ⟨pieces, rfl, hpieces⟩ c hc
    obtain ⟨piece, hpiece, hc⟩ := List.mem_flatten.1 hc
    obtain ⟨d, hd, rfl⟩ := (mem_oneOf chars piece).1 (hpieces piece hpiece)
    rwa [List.mem_singleton.1 hc]
  · intro h
    have hflatten : text = (text.map fun c => [c]).flatten := by
      rw [← List.flatMap_def, List.flatMap_singleton']
    refine ⟨text.map fun c => [c], hflatten, fun piece hpiece => ?_⟩
    obtain ⟨c, hc, rfl⟩ := List.mem_map.1 hpiece
    exact (mem_oneOf chars [c]).2 ⟨c, h c hc, rfl⟩

theorem lt_of_continuesName {c : Char} (h : continuesName c = true) : c.toNat < 128 := by
  simp only [continuesName, Char.isAlphanum, Char.isAlpha, Char.isUpper, Char.isLower,
    Char.isDigit, Bool.or_eq_true, Bool.and_eq_true, decide_eq_true_eq, beq_iff_eq,
    UInt32.le_iff_toNat_le] at h
  rcases h with ((h | h) | h) | rfl
  · exact h.2.trans_lt (by decide)
  · exact h.2.trans_lt (by decide)
  · exact h.2.trans_lt (by decide)
  · decide

theorem startsName_iff (c : Char) :
    startsName c = true ↔ c ∈ lowerLetters ++ upperLetters ++ ['_'] := by
  constructor
  · intro h
    have hcontinues : continuesName c = true := by
      simp only [startsName, continuesName, Char.isAlphanum, Bool.or_eq_true] at *
      tauto
    have hmem : startsName c = true → c ∈ lowerLetters ++ upperLetters ++ ['_'] :=
      of_ascii (P := fun c => startsName c = true → c ∈ lowerLetters ++ upperLetters ++ ['_'])
        (by decide +kernel) (lt_of_continuesName hcontinues)
    exact hmem h
  · exact of_chars (P := fun c => startsName c = true) (by decide +kernel)

theorem continuesName_iff (c : Char) :
    continuesName c = true ↔ c ∈ lowerLetters ++ upperLetters ++ decimalDigits ++ ['_'] := by
  constructor
  · intro h
    have hmem : continuesName c = true →
        c ∈ lowerLetters ++ upperLetters ++ decimalDigits ++ ['_'] :=
      of_ascii (P := fun c => continuesName c = true →
          c ∈ lowerLetters ++ upperLetters ++ decimalDigits ++ ['_'])
        (by decide +kernel) (lt_of_continuesName h)
    exact hmem h
  · exact of_chars (P := fun c => continuesName c = true) (by decide +kernel)

theorem isScope_iff (text : String) :
    isScope text = true ↔ text.toList ∈ scopePattern.matches' := by
  rw [isScope, scopePattern, RegularExpression.matches'_mul, Language.mem_mul]
  cases text.toList with
  | nil =>
    refine ⟨fun h => absurd h Bool.false_ne_true, ?_⟩
    rintro ⟨first, hfirst, rest, -, hnil⟩
    obtain ⟨c, -, rfl⟩ := (mem_oneOf _ first).1 hfirst
    contradiction
  | cons c rest =>
    simp only [Bool.and_eq_true, List.all_eq_true, startsName_iff, continuesName_iff]
    constructor
    · rintro ⟨hfirst, hrest⟩
      exact ⟨[c], (mem_oneOf _ _).2 ⟨c, hfirst, rfl⟩, rest, (mem_star_oneOf _ _).2 hrest, rfl⟩
    · rintro ⟨first, hfirst, more, hmore, hsplit⟩
      obtain ⟨d, hd, rfl⟩ := (mem_oneOf _ first).1 hfirst
      obtain ⟨rfl, rfl⟩ := List.cons.inj hsplit
      exact ⟨hd, (mem_star_oneOf _ _).1 hmore⟩

/-! ### Variables -/

/-- The role that variables state, a server where they state none. -/
def RoleOf (var : String → Option String) (role : Role) : Prop :=
  (var "TELEMETRY_NODE_TYPE" = none ∧ role = .server) ∨
    ∃ text, var "TELEMETRY_NODE_TYPE" = some text ∧ Role.Named text role

/-- Variables that settings can be loaded from. -/
structure Loadable (var : String → Option String) : Prop where
  node : ∃ node, var "TELEMETRY_NODE_ID" = some node ∧ node ≠ ""
  role : ∀ text, var "TELEMETRY_NODE_TYPE" = some text → ∃ role, Role.Named text role
  scope : ∀ scope, var "TELEMETRY_NAMESPACE" = some scope → scope.toList ∈ scopePattern.matches'

/-- The settings that variables state, with standard values for those that are not there. -/
structure StatedBy (s : Settings) (var : String → Option String) : Prop where
  node : var "TELEMETRY_NODE_ID" = some s.node
  role : RoleOf var s.role
  environment : s.environment = (var "TELEMETRY_ENV").getD "development"
  scope : s.scope = (var "TELEMETRY_NAMESPACE").getD "sfu"

/-- What is told of variables that settings cannot be loaded from, and in which words: the
first fault in this order, whatever else is wrong. -/
inductive Fails (var : String → Option String) : Problem → String → Prop
  | absent : var "TELEMETRY_NODE_ID" = none →
    Fails var (.missing "TELEMETRY_NODE_ID")
      "Missing required environment variable: TELEMETRY_NODE_ID"
  | role {node text : String} : var "TELEMETRY_NODE_ID" = some node →
    var "TELEMETRY_NODE_TYPE" = some text → (∀ role, ¬ Role.Named text role) →
    Fails var (.unknownRole text) ("Invalid configuration value: unknown node type: " ++ text)
  | empty : var "TELEMETRY_NODE_ID" = some "" → (∃ role, RoleOf var role) →
    Fails var .noNode "Invalid configuration value: node_id must not be empty"
  | scope {node scope : String} : var "TELEMETRY_NODE_ID" = some node → node ≠ "" →
    (∃ role, RoleOf var role) → var "TELEMETRY_NAMESPACE" = some scope →
    scope.toList ∉ scopePattern.matches' →
    Fails var (.badScope scope) ("Invalid configuration value: namespace '" ++ scope ++
      "' is not a valid metric name prefix")

/-- Settings with which reporters of both kinds are opened, in every session. -/
def Accepted (s : Settings) : Prop :=
  ∀ {α : Type} [Measure α] (session : Session α) (name recorder : String),
    (session.step (.build s.draft name)).reply = .done ∧
      (session.step (.buildOver s.draft name recorder)).reply = .done

/-- What becomes of variables that settings are loaded from. -/
structure Loading (var : String → Option String) : Prop where
  succeeds : (∃ s, load var = .ok s) ↔ Loadable var
  stated : ∀ s, load var = .ok s → s.StatedBy var
  sound : ∀ s, load var = .ok s → s.check = .ok ()
  accepted : ∀ s, load var = .ok s → s.Accepted
  fails : ∀ problem, load var = .error problem ↔ Fails var problem problem.message

/-- The variables of some settings. -/
def ownVariables (s : Settings) : Shelf String String :=
  [("TELEMETRY_NODE_ID", s.node), ("TELEMETRY_NODE_TYPE", s.role.label),
    ("TELEMETRY_ENV", s.environment), ("TELEMETRY_NAMESPACE", s.scope)]

section Load
variable {var : String → Option String} {node : String} {role : Role}

/-- The settings that are checked once node and role are known. -/
def assembled (var : String → Option String) (node : String) (role : Role) : Settings :=
  { node, role
    environment := (var "TELEMETRY_ENV").getD "development"
    scope := (var "TELEMETRY_NAMESPACE").getD "sfu" }

theorem RoleOf.unique {a b : Role} (ha : RoleOf var a) (hb : RoleOf var b) : a = b := by
  rcases ha with ⟨hnone, rfl⟩ | ⟨text, htext, hnamed⟩
  · rcases hb with ⟨-, rfl⟩ | ⟨text, htext, -⟩
    · rfl
    · rw [hnone] at htext
      contradiction
  · rcases hb with ⟨hnone, -⟩ | ⟨other, hother, hnamed'⟩
    · rw [hnone] at htext
      contradiction
    · obtain rfl := Option.some.inj (htext.symm.trans hother)
      exact hnamed.unique hnamed'

theorem exists_roleOf_iff : (∃ role, RoleOf var role) ↔
    ∀ text, var "TELEMETRY_NODE_TYPE" = some text → ∃ role, Role.Named text role := by
  cases htype : var "TELEMETRY_NODE_TYPE" with
  | none => simp [RoleOf, htype]
  | some text => simp [RoleOf, htype]

theorem load_absent (h : var "TELEMETRY_NODE_ID" = none) :
    load var = .error (.missing "TELEMETRY_NODE_ID") := by
  simp [load, h, bind, Except.bind]

theorem load_unknown {text : String} (hnode : var "TELEMETRY_NODE_ID" = some node)
    (htype : var "TELEMETRY_NODE_TYPE" = some text) (h : ∀ role, ¬ Role.Named text role) :
    load var = .error (.unknownRole text) := by
  simp [load, hnode, htype, Role.read_of_unnamed h, bind, Except.bind]

/-- With a node and a role the settings are assembled and checked. -/
theorem load_checked (hnode : var "TELEMETRY_NODE_ID" = some node) (hrole : RoleOf var role) :
    load var = (assembled var node role).check.map fun _ => assembled var node role := by
  have hassembled : load var = (assembled var node role).check >>= fun _ =>
      Except.ok (assembled var node role) := by
    rcases hrole with ⟨hnone, rfl⟩ | ⟨text, htext, hnamed⟩
    · unfold load
      rw [hnode, hnone]
      rfl
    · unfold load
      rw [hnode, htext]
      dsimp only
      rw [Role.read_of_named hnamed]
      rfl
  rw [hassembled]
  cases (assembled var node role).check <;> rfl

/-- The standard scope matches the pattern, so only a scope that is there can fail to. -/
theorem scope_assembled : (assembled var node role).scope.toList ∈ scopePattern.matches' ↔
    ∀ scope, var "TELEMETRY_NAMESPACE" = some scope → scope.toList ∈ scopePattern.matches' := by
  rw [assembled]
  cases hscope : var "TELEMETRY_NAMESPACE" with
  | none =>
    have hstandard : isScope "sfu" = true := by decide +kernel
    exact iff_of_true ((isScope_iff "sfu").1 hstandard) fun scope h => nomatch h
  | some scope => exact ⟨fun h other he => Option.some.inj he ▸ h, fun h => h scope rfl⟩

theorem check_eq_error_iff (s : Settings) (problem : Problem) : s.check = .error problem ↔
    (s.node = "" ∧ problem = .noNode) ∨
      (s.node ≠ "" ∧ s.scope.toList ∉ scopePattern.matches' ∧ problem = .badScope s.scope) := by
  rw [check, ← isScope_iff, eq_comm]
  by_cases hnode : s.node = ""
  · simp [hnode]
  · by_cases hscope : isScope s.scope = true <;> simp [hnode, hscope]

theorem check_eq_ok_iff_matches (s : Settings) :
    s.check = .ok () ↔ s.node ≠ "" ∧ s.scope.toList ∈ scopePattern.matches' := by
  rw [check_eq_ok_iff, isScope_iff]

/-- Variables that load state a node and a role, and the settings so assembled are sound. -/
theorem load_eq_ok_iff (s : Settings) : load var = .ok s ↔ s.StatedBy var ∧ s.check = .ok () := by
  constructor
  · intro h
    cases hnode : var "TELEMETRY_NODE_ID" with
    | none =>
      rw [load_absent hnode] at h
      contradiction
    | some node =>
      by_cases hrole : ∃ role, RoleOf var role
      · obtain ⟨role, hrole⟩ := hrole
        rw [load_checked hnode hrole] at h
        cases hcheck : (assembled var node role).check with
        | error problem =>
          rw [hcheck] at h
          contradiction
        | ok checked =>
          rw [hcheck] at h
          obtain rfl := Except.ok.inj h
          exact ⟨⟨hnode, hrole, rfl, rfl⟩, hcheck⟩
      · rw [exists_roleOf_iff] at hrole
        push Not at hrole
        obtain ⟨text, htext, hunnamed⟩ := hrole
        rw [load_unknown hnode htext hunnamed] at h
        contradiction
  · rintro ⟨hstated, hcheck⟩
    have hassembled : assembled var s.node s.role = s := by
      rw [assembled, ← hstated.environment, ← hstated.scope]
    rw [load_checked hstated.node hstated.role, hassembled, hcheck]
    rfl

theorem load_eq_error_iff (problem : Problem) :
    load var = .error problem ↔ Fails var problem problem.message := by
  constructor
  · intro h
    cases hnode : var "TELEMETRY_NODE_ID" with
    | none =>
      rw [load_absent hnode] at h
      obtain rfl := Except.error.inj h
      exact .absent hnode
    | some node =>
      by_cases hrole : ∃ role, RoleOf var role
      · have hstated := hrole
        obtain ⟨role, hrole⟩ := hrole
        rw [load_checked hnode hrole] at h
        cases hcheck : (assembled var node role).check with
        | ok checked =>
          rw [hcheck] at h
          contradiction
        | error other =>
          rw [hcheck] at h
          obtain rfl := Except.error.inj h
          rcases (check_eq_error_iff _ _).1 hcheck with ⟨rfl, rfl⟩ | ⟨hname, hscope, rfl⟩
          · exact .empty hnode hstated
          · rw [scope_assembled] at hscope
            push Not at hscope
            obtain ⟨scope, hvar, hmatches⟩ := hscope
            rw [show (assembled var node role).scope = scope by simp [assembled, hvar]]
            exact .scope hnode hname hstated hvar hmatches
      · rw [exists_roleOf_iff] at hrole
        push Not at hrole
        obtain ⟨text, htext, hunnamed⟩ := hrole
        rw [load_unknown hnode htext hunnamed] at h
        obtain rfl := Except.error.inj h
        exact .role hnode htext hunnamed
  · intro h
    cases h with
    | absent hnode => exact load_absent hnode
    | role hnode htype hunnamed => exact load_unknown hnode htype hunnamed
    | empty hnode hrole =>
      obtain ⟨role, hrole⟩ := hrole
      rw [load_checked hnode hrole,
        (check_eq_error_iff (assembled var "" role) .noNode).2 (.inl ⟨rfl, rfl⟩)]
      rfl
    | @scope node scope hnode hname hrole hvar hmatches =>
      obtain ⟨role, hrole⟩ := hrole
      have hscope : (assembled var node role).scope = scope := by simp [assembled, hvar]
      rw [load_checked hnode hrole, (check_eq_error_iff _ (.badScope scope)).2
        (.inr ⟨hname, by rwa [hscope], by rw [hscope]⟩)]
      rfl

theorem loadable_iff : Loadable var ↔ ∃ s, load var = .ok s := by
  constructor
  · rintro ⟨⟨node, hnode, hname⟩, hnamed, hscope⟩
    obtain ⟨role, hrole⟩ := exists_roleOf_iff.2 hnamed
    refine ⟨assembled var node role, (load_eq_ok_iff _).2 ⟨⟨hnode, hrole, rfl, rfl⟩, ?_⟩⟩
    exact (check_eq_ok_iff_matches _).2 ⟨hname, scope_assembled.2 hscope⟩
  · rintro ⟨s, hload⟩
    obtain ⟨hstated, hcheck⟩ := (load_eq_ok_iff s).1 hload
    obtain ⟨hname, hmatches⟩ := (check_eq_ok_iff_matches s).1 hcheck
    refine ⟨⟨s.node, hstated.node, hname⟩, exists_roleOf_iff.1 ⟨s.role, hstated.role⟩, ?_⟩
    intro scope hscope
    rwa [hstated.scope, hscope] at hmatches

end Load

/-- Sound settings open reporters of both kinds. -/
theorem accepted_of_check {s : Settings} (h : s.check = .ok ()) : s.Accepted := by
  intro α _ session name recorder
  have hopens : s.draft.opens = true := by
    rw [Draft.opens, s.settings_draft]
    simp [h, Except.isOk, Except.toBool]
  refine ⟨?_, (session.reply_buildOver s.draft name recorder).2 hopens⟩
  rw [Session.step, Session.withSettings, s.settings_draft]
  dsimp only
  rw [session.open?_eq_establish h]
  rfl

theorem statedBy_ownVariables (s : Settings) : s.StatedBy s.ownVariables.get? := by
  refine ⟨rfl, .inr ⟨s.role.label, rfl, ?_⟩, rfl, rfl⟩
  rw [Role.named_iff]
  cases s.role <;> decide +kernel

/-- **Loading settings is exact.** Variables load just when all of them are in order; what is
loaded is what they state, sound, and good to open any reporter with; and otherwise the first
fault is told. Settings are sound just when their own variables load as them. -/
theorem loading_variables (var : String → Option String) :
    Loading var ∧ ∀ s : Settings, s.check = .ok () ↔ load s.ownVariables.get? = .ok s := by
  refine ⟨⟨loadable_iff.symm, ?_, ?_, ?_, load_eq_error_iff⟩, fun s => ?_⟩
  · exact fun s h => ((load_eq_ok_iff s).1 h).1
  · exact fun s h => ((load_eq_ok_iff s).1 h).2
  · exact fun s h => accepted_of_check ((load_eq_ok_iff s).1 h).2
  · rw [load_eq_ok_iff, and_iff_right s.statedBy_ownVariables]

/-- Of three faults the first one is told, and a long s is no letter of a role. -/
example :
    let var (node : String) (name : String) : Option String :=
      match name with
      | "TELEMETRY_NODE_ID" => some node
      | "TELEMETRY_NODE_TYPE" => some "ſerver"
      | "TELEMETRY_NAMESPACE" => some "9sfu"
      | _ => none
    load (var "") = .error (.unknownRole "ſerver") := by
  decide +kernel

end Settings
end Roomwatch
