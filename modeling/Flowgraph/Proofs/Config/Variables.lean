/-
  Flowgraph/Proofs/Config/Variables.lean
  ======================================
  **What the variables of the environment say** — a variable that is set, and not blank, says its
  text without the white space around it (`said?`).  The settings are what the variables say, and
  the defaults where they say nothing; but if one of them says what it does not take, the first
  such variable is refused (`ofEnvironment_eq`).

  The variables differ in the texts they take and in how they are refused, and in nothing else: so
  a `Variable` is these two, with its name, and `Variable.inOrder` has them in the order in which
  they are read.
-/
import Mathlib.Logic.Basic
import Flowgraph.Config

namespace Flowgraph

theorem Text.natural?_lt {bound n : Nat} {text : String} (h : natural? bound text = some n) :
    n < bound := by
  obtain ⟨-, hbound⟩ := Option.filter_eq_some_iff.1 h
  exact of_decide_eq_true hbound

namespace Config

variable {env : Environment} {name text : String} {error : ConfigError}

/-- What a variable says, if it is set and not blank. -/
def said? (env : Environment) (name : String) : Option String :=
  ((env.get? name).map Text.trim).filter (!·.isEmpty)

/-- What a variable means: what it says, read by a function. -/
def meant? {α : Type} (env : Environment) (read? : String → Option α) (name : String) : Option α :=
  (said? env name).bind read?

theorem meant?_lt {bound k : Nat} (h : meant? env (Text.natural? bound) name = some k) :
    k < bound := by
  obtain ⟨text, -, hread⟩ := Option.bind_eq_some_iff.1 h
  exact Text.natural?_lt hread

/-! ### Truth values -/

/-- The words for a truth value. -/
def truthWords : List String := ["1", "true", "yes", "on"] ++ ["0", "false", "no", "off"]

/-- A text is one of the words, in capital or small letters. -/
def SpellsTruth (text : String) : Prop :=
  ∃ word ∈ truthWords, text.toList.map Char.toLower = word.toList

instance (text : String) : Decidable (SpellsTruth text) :=
  inferInstanceAs (Decidable (∃ word ∈ truthWords, _))

theorem isSome_truthValue?_iff : (truthValue? text).isSome = true ↔ SpellsTruth text := by
  have hword : ∀ word : String, text.toList.map Char.toLower = word.toList ↔
      word = String.ofList (text.toList.map Char.toLower) := by
    intro word
    rw [← String.toList_inj, String.toList_ofList, eq_comm]
  simp only [SpellsTruth, hword, exists_eq_right, truthWords, truthValue?]
  generalize String.ofList (text.toList.map Char.toLower) = word
  rw [List.mem_append]
  by_cases htrue : word ∈ ["1", "true", "yes", "on"]
  · rw [if_pos htrue]
    exact iff_of_true rfl (.inl htrue)
  · rw [if_neg htrue]
    by_cases hfalse : word ∈ ["0", "false", "no", "off"]
    · rw [if_pos hfalse]
      exact iff_of_true rfl (.inr hfalse)
    · rw [if_neg hfalse]
      exact iff_of_false Bool.false_ne_true (not_or.2 ⟨htrue, hfalse⟩)

/-! ### Variables -/

/-- A variable: the texts that it takes, and what is told of one that it does not take. -/
structure Variable where
  name : String
  takes : String → Bool
  refuse : String → ConfigError

namespace Variable

/-- A variable whose value is read by a function. -/
def reading {α : Type} (read? : String → Option α) (name : String) : Variable :=
  ⟨name, fun text => (read? text).isSome, .invalidValue name⟩

/-- A variable that is one thing or the other.  What is told of it is its text as it is taken. -/
def flag (name : String) : Variable :=
  ⟨name, fun text => SpellsTruth text, fun text => .notATruthValue name (Text.trim text)⟩

/-- The variables in the order in which they are read. -/
def inOrder : List Variable :=
  [reading (Text.natural? UInt32.size) maxAttemptsVariable,
   reading (Text.natural? UInt64.size) initialIntervalVariable,
   reading Text.float? backoffFactorVariable,
   reading (Text.natural? UInt64.size) maxIntervalVariable,
   flag jitterVariable]

example : inOrder.map (·.name) = variableNames := rfl

/-- The text that the variable is set to, if that is not blank and not taken. -/
def fault? (v : Variable) (env : Environment) : Option String :=
  (env.get? v.name).filter fun text =>
    !(Text.trim text).isEmpty && !v.takes (Text.trim text)

/-- The variable is set to a text that is not blank, and that it does not take. -/
def Faults (v : Variable) (env : Environment) (text : String) : Prop :=
  env.get? v.name = some text ∧ said? env v.name = some (Text.trim text) ∧
    v.takes (Text.trim text) = false

variable {v : Variable}

theorem fault?_eq_some_iff : v.fault? env = some text ↔ v.Faults env text := by
  rw [fault?, Option.filter_eq_some_iff, Faults]
  refine and_congr_right fun hset => ?_
  simp [said?, hset]

theorem fault?_eq_none_iff : v.fault? env = none ↔ ∀ text, ¬ v.Faults env text := by
  rw [Option.eq_none_iff_forall_ne_some]
  exact forall_congr' fun text => not_congr fault?_eq_some_iff

/-- What is told begins with the name of the variable. -/
theorem message_refuse (hv : v ∈ inOrder) (text : String) :
    ∃ rest, (v.refuse text).message = v.name ++ rest := by
  simp only [inOrder, List.mem_cons, List.not_mem_nil, or_false] at hv
  rcases hv with rfl | rfl | rfl | rfl | rfl <;> exact ⟨_, String.append_assoc⟩

end Variable

/-! ### Reading -/

/-- What a variable is read as, unless it is at fault: the value of what it says. -/
theorem readVariable_eq {α : Type} (read? : String → Option α) (env : Environment)
    (name : String) :
    readVariable read? env name =
      match (Variable.reading read? name).fault? env with
      | some text => .error (.invalidValue name text)
      | none => .ok (meant? env read? name) := by
  unfold readVariable Variable.fault? Variable.reading meant? said?
  cases hset : env.get? name with
  | none => rfl
  | some text =>
    by_cases hblank : (Text.trim text).isEmpty = true
    · simp [hblank, Option.filter_some]
    · cases hread : read? (Text.trim text) with
      | none => simp [hblank, hread, Option.filter_some]
      | some value => simp [hblank, hread, Option.filter_some]

theorem readFlag_eq (env : Environment) (name : String) :
    readFlag env name =
      match (Variable.flag name).fault? env with
      | some text => .error (.notATruthValue name (Text.trim text))
      | none => .ok (meant? env truthValue? name) := by
  unfold readFlag readVariable Variable.fault? Variable.flag meant? said?
  simp only [← isSome_truthValue?_iff]
  cases hset : env.get? name with
  | none => rfl
  | some text =>
    by_cases hblank : (Text.trim text).isEmpty = true
    · simp [hblank, Option.filter_some, bind, Except.bind, pure, Except.pure]
    · cases htruth : truthValue? (Text.trim text) with
      | none => simp [hblank, htruth, Option.filter_some, bind, Except.bind, throw, throwThe,
          MonadExceptOf.throw]
      | some value => simp [hblank, htruth, Option.filter_some, bind, Except.bind, pure, Except.pure]

/-! ### All of them -/

/-- What is told of the first variable at fault. -/
def firstFault? (env : Environment) : Option ConfigError :=
  Variable.inOrder.findSome? fun v => (v.fault? env).map v.refuse

/-- The settings that the variables come to: what each says, and the default where it says
    nothing. -/
def stated (env : Environment) : Config :=
  let defaults : Config := {}
  let attempts := meant? env (Text.natural? UInt32.size) maxAttemptsVariable
  let initial := meant? env (Text.natural? UInt64.size) initialIntervalVariable
  let longest := meant? env (Text.natural? UInt64.size) maxIntervalVariable
  { defaults with
    maxAttempts := (attempts.map UInt32.ofNat).getD defaults.maxAttempts
    initialIntervalMs := (initial.map UInt64.ofNat).getD defaults.initialIntervalMs
    backoffFactor := (meant? env Text.float? backoffFactorVariable).getD defaults.backoffFactor
    maxIntervalMs := (longest.map UInt64.ofNat).getD defaults.maxIntervalMs
    jitter := (meant? env truthValue? jitterVariable).getD defaults.jitter }

theorem ofEnvironment_eq (env : Environment) :
    ofEnvironment env =
      match firstFault? env with
      | some error => .error error
      | none => .ok (stated env) := by
  simp only [ofEnvironment, readVariable_eq, readFlag_eq, firstFault?, Variable.inOrder,
    List.findSome?_cons, List.findSome?_nil]
  -- Each variable that is at fault ends the reading, and the next is looked at only if it is not.
  cases (Variable.reading (Text.natural? UInt32.size) maxAttemptsVariable).fault? env with
  | some text => rfl
  | none =>
    cases (Variable.reading (Text.natural? UInt64.size) initialIntervalVariable).fault? env with
    | some text => rfl
    | none =>
      cases (Variable.reading Text.float? backoffFactorVariable).fault? env with
      | some text => rfl
      | none =>
        cases (Variable.reading (Text.natural? UInt64.size) maxIntervalVariable).fault? env with
        | some text => rfl
        | none => cases (Variable.flag jitterVariable).fault? env <;> rfl

theorem ofEnvironment_eq_error_iff :
    ofEnvironment env = .error error ↔ firstFault? env = some error := by
  rw [ofEnvironment_eq]
  cases firstFault? env <;> simp

theorem ofEnvironment_eq_ok_iff {c : Config} :
    ofEnvironment env = .ok c ↔ firstFault? env = none ∧ stated env = c := by
  rw [ofEnvironment_eq]
  cases firstFault? env <;> simp

theorem firstFault?_eq_none_iff :
    firstFault? env = none ↔ ∀ v ∈ Variable.inOrder, ∀ text, ¬ v.Faults env text := by
  simp only [firstFault?, List.findSome?_eq_none_iff, Option.map_eq_none_iff,
    Variable.fault?_eq_none_iff]

theorem firstFault?_eq_some_iff :
    firstFault? env = some error ↔
      ∃ before v after text, Variable.inOrder = before ++ v :: after ∧
        (∀ u ∈ before, ∀ text, ¬ u.Faults env text) ∧ v.Faults env text ∧
          v.refuse text = error := by
  simp only [firstFault?, List.findSome?_eq_some_iff, Option.map_eq_some_iff,
    Option.map_eq_none_iff, Variable.fault?_eq_none_iff, Variable.fault?_eq_some_iff]
  constructor
  · rintro ⟨before, v, after, horder, ⟨text, hfaults, htold⟩, hbefore⟩
    exact ⟨before, v, after, text, horder, hbefore, hfaults, htold⟩
  · rintro ⟨before, v, after, text, horder, hbefore, hfaults, htold⟩
    exact ⟨before, v, after, horder, ⟨text, hfaults, htold⟩, hbefore⟩

end Config

end Flowgraph
