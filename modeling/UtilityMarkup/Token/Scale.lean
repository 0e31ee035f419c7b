import Std.Data.ExtTreeMap

/-!
# Scales

Names for exact numbers. A scale never rounds: a number that it does not hold has no name.
-/

namespace UtilityMarkup

/-- Names by the bits of a number, with one key for both zeros. -/
structure Scale where
  names : Std.ExtTreeMap UInt64 String

namespace Scale

def key (value : Float) : UInt64 :=
  if value == 0 then 0 else value.toBits

def empty : Scale := ⟨∅⟩

def insert (scale : Scale) (value : Float) (name : String) : Scale :=
  ⟨scale.names.insert (key value) name⟩

/-- Of two names for one number the later stays. -/
def ofPairs (pairs : List (Float × String)) : Scale :=
  pairs.foldl (fun scale (value, name) => scale.insert value name) empty

def find? (scale : Scale) (value : Float) : Option String :=
  scale.names[key value]?

def size (scale : Scale) : Nat :=
  scale.names.size

def isEmpty (scale : Scale) : Bool :=
  scale.names.isEmpty

@[simp] theorem find?_empty (value : Float) : empty.find? value = none := by
  simp [empty, find?]

theorem find?_insert (scale : Scale) (value other : Float) (name : String) :
    (scale.insert value name).find? other =
      if key value = key other then some name else scale.find? other := by
  simp [insert, find?, Std.ExtTreeMap.getElem?_insert]

theorem find?_foldl_insert (pairs : List (Float × String)) (scale : Scale) (value : Float) :
    (pairs.foldl (fun scale (value, name) => scale.insert value name) scale).find? value =
      ((pairs.reverse.find? fun pair => key pair.1 = key value).map (·.2)).or
        (scale.find? value) := by
  induction pairs generalizing scale with
  | nil => simp
  | cons pair pairs ih =>
    rw [List.foldl_cons, ih, find?_insert, List.reverse_cons, List.find?_append]
    cases pairs.reverse.find? fun pair => key pair.1 = key value with
    | some found => simp
    | none => by_cases h : key pair.1 = key value <;> simp [h]

/-- The last pair with a number decides its name. -/
theorem find?_ofPairs (pairs : List (Float × String)) (value : Float) :
    (ofPairs pairs).find? value =
      (pairs.reverse.find? fun pair => key pair.1 = key value).map (·.2) := by
  simp [ofPairs, find?_foldl_insert]

end Scale

end UtilityMarkup
