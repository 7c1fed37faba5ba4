import WalCheckpoint.Proofs.Binary64.Exact
import WalCheckpoint.Value

namespace WalCheckpoint

/-! When two values are one key, and what is found and put in under a key however it is written. -/

/-- What a value is as a key: numbers count by their value, and instants by their moment. -/
inductive Key where
  | null
  | text (s : String)
  | broken (text : Text.Broken)
  | bytes (bs : List UInt8)
  | date (d : Time.Date)
  | moment (zoned : Bool) (micros : Int)
  | number (q : ℚ)
  | infinite (negative : Bool)
  | nan (x : Binary64)

def Key.isNumeric : Key → Bool
  | .number _ | .infinite _ | .nan _ => true
  | _ => false

namespace Value

def floatKey (x : Binary64) : Key :=
  match x.form with
  | .nan => .nan x
  | .infinite negative => .infinite negative
  | .finite .. => .number (x.rational?.getD 0)

/-- Values that can be no key have none. -/
def key? : Value → Option Key
  | .null => some .null
  | .bool b => some (.number (if b then 1 else 0))
  | .int n => some (.number n)
  | .float x => some (floatKey x)
  | .string s => some (.text s)
  | .broken text => some (.broken text)
  | .bytes bs => some (.bytes bs)
  | .date d => some (.date d)
  | .dateTime t => some (.moment t.offset.isSome t.toMicros)
  | .list _ | .pair _ _ | .set _ | .map _ | .enclosing _ => none

theorem floatKey_eq_number_iff {x : Binary64} {q : ℚ} :
    floatKey x = .number q ↔ x.rational? = some q := by
  rw [floatKey]
  cases form : x.form with
  | nan => simp [Binary64.rational?, Binary64.Form.rational?, form]
  | infinite negative => simp [Binary64.rational?, Binary64.Form.rational?, form]
  | finite negative mantissa exponent =>
      obtain ⟨n, d, -, -, exact⟩ := Binary64.rational?_of_finite form
      simp [exact]

theorem floatKey_eq_iff {x y : Binary64} :
    floatKey x = floatKey y ↔ x = y ∨ x.compare? y = some .eq := by
  constructor
  · intro same
    rw [Binary64.compare?_eq_iff]
    cases form : x.form with
    | nan =>
        rw [floatKey, form, floatKey] at same
        cases form' : y.form <;> rw [form'] at same <;> first | contradiction | skip
        exact .inl (Key.nan.inj same)
    | infinite negative =>
        rw [floatKey, form, floatKey] at same
        cases form' : y.form <;> rw [form'] at same <;> first | contradiction | skip
        obtain rfl := Key.infinite.inj same
        exact .inr (.inl ⟨negative, rfl, rfl⟩)
    | finite negative mantissa exponent =>
        obtain ⟨n, d, -, -, exact⟩ := Binary64.rational?_of_finite form
        have exact' := floatKey_eq_number_iff.mp (same.symm.trans (floatKey_eq_number_iff.mpr exact))
        exact .inr (.inr ⟨_, exact, exact'⟩)
  · rintro (rfl | compared)
    · rfl
    · obtain ⟨negative, form, form'⟩ | ⟨q, exact, exact'⟩ := Binary64.compare?_eq_iff.mp compared
      · rw [floatKey, form, floatKey, form']
      · rw [floatKey_eq_number_iff.mpr exact, floatKey_eq_number_iff.mpr exact']

theorem swap_eq_iff {compared : Option Ordering} :
    compared.map Ordering.swap = some .eq ↔ compared = some .eq := by
  cases compared with
  | none => simp
  | some order => cases order <;> simp

def Number.key : Number → Key
  | .int n => .number n
  | .float x => floatKey x

theorem key?_of_number? {v : Value} {n : Number} (number : v.number? = some n) :
    v.key? = some n.key := by
  cases v <;> first | contradiction | skip
  all_goals
    obtain rfl := Option.some.inj number
    first | rfl | skip
  next b => cases b <;> simp [key?, Number.key]

theorem number_key_iff {n n' : Number} (whole : ∀ a b, n = .float a → n' ≠ .float b) :
    n.compare? n' = some .eq ↔ n.key = n'.key := by
  cases n with
  | int n =>
      cases n' with
      | int n' => simp [Number.compare?, Number.key]
      | float x =>
          rw [Number.compare?, swap_eq_iff, Binary64.compareInt?_eq_iff,
            ← floatKey_eq_number_iff]
          exact eq_comm
  | float x =>
      cases n' with
      | int n => rw [Number.compare?, Binary64.compareInt?_eq_iff, ← floatKey_eq_number_iff]; rfl
      | float y => exact absurd rfl (whole x y rfl)

theorem sameKey_number_iff {x y : Value} {n n' : Number} (number : x.number? = some n)
    (number' : y.number? = some n') : x.sameKey y = true ↔ n.key = n'.key := by
  by_cases floats : ∃ a b, x = .float a ∧ y = .float b
  · obtain ⟨a, b, rfl, rfl⟩ := floats
    obtain rfl := Option.some.inj number
    obtain rfl := Option.some.inj number'
    rw [Number.key, Number.key, floatKey_eq_iff]
    simp [sameKey]
  · have apart : ∀ a b, n = .float a → n' ≠ .float b := by
      rintro a b rfl rfl
      cases x <;> cases y <;> simp_all [number?]
    rw [← number_key_iff apart, ← beq_iff_eq]
    cases x <;> cases y <;> simp_all [number?, sameKey]

theorem number?_isSome_of_key {x : Value} {key : Key} (counts : x.key? = some key) :
    x.number?.isSome = key.isNumeric := by
  cases x with
  | float x =>
      obtain rfl := Option.some.inj counts
      rw [floatKey]
      cases x.form <;> rfl
  | list | pair | set | map | enclosing => contradiction
  | _ =>
      obtain rfl := Option.some.inj counts
      rfl

/-- Values are one key where they count as the same. -/
theorem sameKey_iff {x y : Value} :
    x.sameKey y = true ↔ ∃ key, x.key? = some key ∧ y.key? = some key := by
  have mixed (differs : x.number?.isSome ≠ y.number?.isSome) :
      x.sameKey y = true ↔ ∃ key, x.key? = some key ∧ y.key? = some key := by
    refine iff_of_false ?_ ?_
    · cases x <;> cases y <;> simp_all [sameKey, number?]
    · rintro ⟨key, counts, counts'⟩
      exact differs ((number?_isSome_of_key counts).trans (number?_isSome_of_key counts').symm)
  cases number : x.number? with
  | some n =>
      cases number' : y.number? with
      | some n' =>
          rw [key?_of_number? number, key?_of_number? number', sameKey_number_iff number number']
          simp [eq_comm]
      | none => exact mixed (by simp [number, number'])
  | none =>
      cases number' : y.number? with
      | some n' => exact mixed (by simp [number, number'])
      | none =>
          refine Iff.trans ?_ (exists_congr fun key => And.comm)
          cases x <;> first | contradiction | skip
          all_goals
            cases y <;> first | contradiction | simp [sameKey, key?, number?, sameInstant, Subtype.ext_iff]

theorem sameKey_comm (x y : Value) : x.sameKey y = y.sameKey x := by
  rw [Bool.eq_iff_iff, sameKey_iff, sameKey_iff]
  exact exists_congr fun key => And.comm

theorem sameKey_congr {x y : Value} (same : x.sameKey y = true) (z : Value) :
    x.sameKey z = y.sameKey z := by
  obtain ⟨key, counts, counts'⟩ := sameKey_iff.mp same
  rw [Bool.eq_iff_iff, sameKey_iff, sameKey_iff, counts, counts']

end Value

end WalCheckpoint
