import AutomationHub.Model.Basic

/-! The text of a UUID. -/

set_option autoImplicit false

namespace AutomationHub.Model

def hexAlphabet : List Char :=
  ['0', '1', '2', '3', '4', '5', '6', '7', '8', '9', 'a', 'b', 'c', 'd', 'e', 'f']

/-- Hexadecimal digits with leading zeros up to 32 of them. -/
def hexDigits (id : UUID) : List Char :=
  List.replicate (32 - (Nat.toDigits 16 id).length) '0' ++ Nat.toDigits 16 id

/-- `str(uuid)`. -/
def uuidText (id : UUID) : List Char :=
  let digits := hexDigits id
  digits.take 8 ++ '-' :: ((digits.drop 8).take 4 ++ '-' :: ((digits.drop 12).take 4 ++
    '-' :: ((digits.drop 16).take 4 ++ '-' :: digits.drop 20)))

def hexValue (digits : List Char) : Nat :=
  digits.foldl (fun value digit => value * 16 + hexAlphabet.idxOf digit) 0

theorem digitChar_hex : ∀ digit < 16, Nat.digitChar digit ∈ hexAlphabet ∧ hexAlphabet.idxOf (Nat.digitChar digit) = digit := by
  decide

theorem mem_toDigits_hex (value : Nat) : ∀ digit ∈ Nat.toDigits 16 value, digit ∈ hexAlphabet := by
  induction value using Nat.strongRecOn with
  | ind value recurse =>
      by_cases small : value < 16
      · rw [Nat.toDigits_of_lt_base small]
        simpa using (digitChar_hex value small).1
      · have large : 16 ≤ value := Nat.le_of_not_lt small
        rw [Nat.toDigits_of_base_le (by decide) large]
        intro digit member
        rcases List.mem_append.mp member with earlier | last
        · exact recurse (value / 16) (by omega) digit earlier
        · obtain rfl := List.mem_singleton.mp last
          exact (digitChar_hex (value % 16) (Nat.mod_lt _ (by decide))).1

theorem hexValue_toDigits (value : Nat) : hexValue (Nat.toDigits 16 value) = value := by
  induction value using Nat.strongRecOn with
  | ind value recurse =>
      by_cases small : value < 16
      · rw [Nat.toDigits_of_lt_base small]
        simpa [hexValue] using (digitChar_hex value small).2
      · have large : 16 ≤ value := Nat.le_of_not_lt small
        have shorter := recurse (value / 16) (by omega)
        rw [hexValue] at shorter
        rw [Nat.toDigits_of_base_le (by decide) large, hexValue, List.foldl_append, shorter, List.foldl_cons, List.foldl_nil,
          (digitChar_hex (value % 16) (Nat.mod_lt _ (by decide))).2]
        omega

theorem hexValue_replicate_append (count : Nat) (digits : List Char) :
    hexValue (List.replicate count '0' ++ digits) = hexValue digits := by
  induction count with
  | zero => rfl
  | succ count recurse => exact recurse

theorem mem_hexDigits {id : UUID} {digit : Char} (member : digit ∈ hexDigits id) : digit ∈ hexAlphabet := by
  rcases List.mem_append.mp member with zero | significant
  · obtain rfl := List.eq_of_mem_replicate zero
    decide
  · exact mem_toDigits_hex id digit significant

theorem hexDigits_inj {first second : UUID} (same : hexDigits first = hexDigits second) : first = second := by
  rw [← hexValue_toDigits first, ← hexValue_toDigits second, ← hexValue_replicate_append _ (Nat.toDigits 16 first),
    ← hexValue_replicate_append _ (Nat.toDigits 16 second)]
  exact congrArg hexValue same

theorem mem_uuidText {id : UUID} {char : Char} (member : char ∈ uuidText id) : char ∈ hexAlphabet ∨ char = '-' := by
  simp only [uuidText, List.mem_append, List.mem_cons] at member
  rcases member with digit | rfl | digit | rfl | digit | rfl | digit | rfl | digit
  · exact .inl (mem_hexDigits (List.mem_of_mem_take digit))
  · exact .inr rfl
  · exact .inl (mem_hexDigits (List.mem_of_mem_drop (List.mem_of_mem_take digit)))
  · exact .inr rfl
  · exact .inl (mem_hexDigits (List.mem_of_mem_drop (List.mem_of_mem_take digit)))
  · exact .inr rfl
  · exact .inl (mem_hexDigits (List.mem_of_mem_drop (List.mem_of_mem_take digit)))
  · exact .inr rfl
  · exact .inl (mem_hexDigits (List.mem_of_mem_drop digit))

theorem filter_hexDigits (part : List Char) {id : UUID} (digits : ∀ char ∈ part, char ∈ hexDigits id) :
    part.filter (· != '-') = part := by
  apply List.filter_eq_self.mpr
  intro char member
  apply bne_iff_ne.mpr
  rintro rfl
  exact absurd (mem_hexDigits (digits _ member)) (by decide)

theorem filter_uuidText (id : UUID) : (uuidText id).filter (· != '-') = hexDigits id := by
  have taken (count skipped : Nat) : (((hexDigits id).drop skipped).take count).filter (· != '-') =
      ((hexDigits id).drop skipped).take count :=
    filter_hexDigits _ fun char member => List.mem_of_mem_drop (List.mem_of_mem_take member)
  have first : ((hexDigits id).take 8).filter (· != '-') = (hexDigits id).take 8 := taken 8 0
  have last : ((hexDigits id).drop 20).filter (· != '-') = (hexDigits id).drop 20 :=
    filter_hexDigits _ fun char member => List.mem_of_mem_drop member
  simp only [uuidText, List.filter_append, List.filter_cons, bne_self_eq_false, Bool.false_eq_true, if_false, taken, first,
    last]
  have joined (count skipped : Nat) : ((hexDigits id).drop skipped).take count ++ (hexDigits id).drop (skipped + count) =
      (hexDigits id).drop skipped := by
    rw [← List.drop_drop]
    exact List.take_append_drop _ _
  rw [show (20 : Nat) = 16 + 4 from rfl, joined 4 16, show (16 : Nat) = 12 + 4 from rfl, joined 4 12,
    show (12 : Nat) = 8 + 4 from rfl, joined 4 8]
  exact List.take_append_drop 8 _

theorem uuidText_inj {first second : UUID} (same : uuidText first = uuidText second) : first = second := by
  apply hexDigits_inj
  rw [← filter_uuidText, same, filter_uuidText]

example : uuidText 0x123e4567e89b12d3a456426614174000 = "123e4567-e89b-12d3-a456-426614174000".toList := by
  decide +kernel

end AutomationHub.Model
