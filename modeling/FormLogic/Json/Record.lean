import FormLogic.Dictionary
import FormLogic.Json.Basic

/-! Records in JSON: objects with known members. What else an object holds does not matter, and a
record may also stand as an array of its members' values in their order. -/

namespace FormLogic.Json

/-- The known members of a record that is being read. -/
abbrev Members := List (String × Json)

def members? (names : List String) : Json → Option Members
  | .object members =>
    let known := members.filter (·.1 ∈ names)
    if (known.map (·.1)).Nodup then some known else none
  | .array items => if items.length ≤ names.length then some (names.zip items) else none
  | _ => none

namespace Members

variable {α : Type}

def required (members : Members) (name : String) (read? : Json → Option α) : Option α :=
  (valueOf? name members).bind read?

/-- A member that may be left out. -/
def orElse (members : Members) (name : String) (read? : Json → Option α) (missing : α) : Option α :=
  match valueOf? name members with
  | some j => read? j
  | none => some missing

/-- A member that may be left out or null. -/
def optional (members : Members) (name : String) (read? : Json → Option α) : Option (Option α) :=
  match valueOf? name members with
  | none | some .null => some none
  | some j => (read? j).map some

end Members

def text? : Json → Option String
  | .text s => some s
  | _ => none

def boolean? : Json → Option Bool
  | .boolean b => some b
  | _ => none

def int32? : Json → Option Int32
  | .integer n => if -2147483648 ≤ n ∧ n ≤ 2147483647 then some (Int32.ofInt n) else none
  | _ => none

def items? {α : Type} (read? : Json → Option α) : Json → Option (List α)
  | .array items => items.mapM read?
  | _ => none

theorem mapM_map_eq_some {α β : Type} {write : α → β} {read? : β → Option α} {as : List α}
    (h : ∀ a ∈ as, read? (write a) = some a) : (as.map write).mapM read? = some as := by
  induction as with
  | nil => rfl
  | cons a as ih =>
    rw [List.map_cons, List.mapM_cons, h a List.mem_cons_self,
      ih fun b hb => h b (List.mem_cons_of_mem _ hb)]
    rfl

/-- A name of one of finitely many things, which may also be the name of a member that is null. -/
def named? {α : Type} (ofName? : String → Option α) : Json → Option α
  | .text s => ofName? s
  | .object [(s, .null)] => ofName? s
  | _ => none

def ofOption {α : Type} (toJson : α → Json) : Option α → Json
  | some a => toJson a
  | none => .null

end FormLogic.Json
