import Mathlib.Algebra.Ring.Nat
import AbiBindings.Abi.Enumeration

/-!
# Signs of enumerations

The bytes of a member read in two's complement as a negative number exactly if their most significant
bit is set, and what was stored reads as itself. So an enumeration of a width that integers come in
is signed exactly if that bit is set in some of its members. Neither the order of the members nor
their repetition matters, and more members never make it unsigned. Of any other width the
enumeration is refused, for want of a reading if there is a member, else for want of a type.
-/

namespace AbiBindings

/-- The most significant bit decides which of two numbers a pattern reads as. -/
theorem twosComplement_eq {bits pattern : Nat} (hbits : 0 < bits) (h : pattern < 2 ^ bits) :
    twosComplement bits pattern =
      if pattern.testBit (bits - 1) then (pattern : Int) - (2 ^ bits : Nat) else pattern := by
  obtain ⟨half, rfl⟩ : ∃ half, bits = half + 1 := ⟨bits - 1, by omega⟩
  have hmod : (pattern : Int) % ((2 ^ (half + 1) : Nat) : Int) = pattern :=
    Int.emod_eq_of_lt (by omega) (by omega)
  have hdouble : 2 ^ (half + 1) = 2 * 2 ^ half := by rw [Nat.pow_succ, Nat.mul_comm]
  rw [twosComplement, Nat.one_shiftLeft, Int.bmod_def, hmod, Nat.add_sub_cancel]
  by_cases hlow : pattern < 2 ^ half
  · have hbit : pattern.testBit half = false := Nat.testBit_lt_two_pow hlow
    rw [if_pos (by omega), if_neg (by simp [hbit])]
  · have hbit : pattern.testBit half = true :=
      Nat.testBit_of_two_pow_le_and_two_pow_add_one_gt (by omega) h
    rw [if_neg (by omega), if_pos hbit]

/-- A number in the range of its width reads as itself from its lowest bits. -/
theorem twosComplement_emod {bits : Nat} (hbits : 0 < bits) {value : Int}
    (hlow : -(2 ^ (bits - 1) : Nat) ≤ value) (hhigh : value < (2 ^ (bits - 1) : Nat))
    {pattern : Nat} (hpattern : (pattern : Int) = value % (2 ^ bits : Nat)) :
    twosComplement bits pattern = value := by
  obtain ⟨half, rfl⟩ : ∃ half, bits = half + 1 := ⟨bits - 1, by omega⟩
  have hdouble : 2 ^ (half + 1) = 2 * 2 ^ half := by rw [Nat.pow_succ, Nat.mul_comm]
  rw [Nat.add_sub_cancel] at hlow hhigh
  rw [twosComplement, Nat.one_shiftLeft, hpattern, Int.emod_bmod]
  exact Int.bmod_eq_of_le (by omega) (by omega)

theorem littleEndian_lt (bytes : List UInt8) : littleEndian bytes < 2 ^ (8 * bytes.length) := by
  induction bytes with
  | nil => decide
  | cons b rest ih =>
    have hb := b.toNat_lt
    have hpow : 2 ^ (8 * (b :: rest).length) = 256 * 2 ^ (8 * rest.length) := by
      rw [List.length_cons, Nat.mul_succ, Nat.pow_add, Nat.mul_comm]
    rw [littleEndian, hpow]
    omega

/-- The lowest byte of a number, and the remaining ones up to a width. -/
theorem emod_byte_mul (value : Int) {width : Int} (hwidth : 0 < width) :
    value % (256 * width) = value % 256 + 256 * (value / 256 % width) := by
  have hbyte := Int.emod_add_mul_ediv value 256
  have hrest := Int.emod_add_mul_ediv (value / 256) width
  have hlow := Int.emod_nonneg value (by decide : (256 : Int) ≠ 0)
  have hlt := Int.emod_lt_of_pos value (by decide : (0 : Int) < 256)
  have hlow' := Int.emod_nonneg (value / 256) (Int.ne_of_gt hwidth)
  have hlt' := Int.emod_lt_of_pos (value / 256) hwidth
  have hsplit : value = value % 256 + 256 * (value / 256 % width) +
      256 * width * (value / 256 / width) := by
    rw [Int.mul_assoc]
    omega
  have hmod := Int.add_mul_emod_self_left (value % 256 + 256 * (value / 256 % width))
    (256 * width) (value / 256 / width)
  rw [← hsplit] at hmod
  rw [hmod]
  exact Int.emod_eq_of_lt (by omega) (by omega)

theorem littleEndian_storedBytes (width : Nat) (value : Int) :
    (littleEndian (storedBytes width value) : Int) = value % (2 ^ (8 * width) : Nat) := by
  induction width generalizing value with
  | zero => exact (Int.emod_one value).symm
  | succ width ih =>
    have hpow : ((2 ^ (8 * (width + 1)) : Nat) : Int) = 256 * (2 ^ (8 * width) : Nat) := by
      rw [Nat.mul_succ, Nat.pow_add, Nat.mul_comm, Int.natCast_mul]
      rfl
    have hpos : 0 < ((2 ^ (8 * width) : Nat) : Int) := Int.natCast_pos.mpr (Nat.two_pow_pos _)
    have hbyte : ((UInt8.ofNat (value % 256).toNat).toNat : Int) = value % 256 := by
      rw [UInt8.toNat_ofNat']
      omega
    rw [hpow, emod_byte_mul value hpos, storedBytes, littleEndian,
      Int.natCast_add, Int.natCast_mul, ih, hbyte]
    rfl

namespace StoredMember

/-- The most significant bit of the stored bytes. -/
def signBit {width : Nat} (member : StoredMember width) : Bool :=
  (littleEndian member.val).testBit (8 * width - 1)

/-- What the bytes read as in two's complement. -/
def signedValue {width : Nat} (member : StoredMember width) : Int :=
  if member.signBit then (littleEndian member.val : Int) - (2 ^ (8 * width) : Nat)
  else littleEndian member.val

theorem littleEndian_val_lt {width : Nat} (member : StoredMember width) :
    littleEndian member.val < 2 ^ (8 * width) := by
  have h := littleEndian_lt member.val
  rwa [member.property] at h

theorem signedValue_neg_iff {width : Nat} (member : StoredMember width) :
    member.signedValue < 0 ↔ member.signBit = true := by
  have hlt := member.littleEndian_val_lt
  rw [signedValue]
  by_cases hbit : member.signBit = true
  · rw [if_pos hbit]
    exact iff_of_true (by omega) hbit
  · rw [if_neg hbit]
    exact iff_of_false (by omega) hbit

theorem reading?_of_mem {width : Nat} (h : width ∈ [1, 2, 4, 8, 16])
    (member : StoredMember width) : member.reading? = some member.signedValue := by
  have hpos : 0 < 8 * width := by
    simp only [List.mem_cons, List.not_mem_nil, or_false] at h
    omega
  have hreading :
      member.reading? = some (twosComplement (8 * width) (littleEndian member.val)) := by
    simp only [List.mem_cons, List.not_mem_nil, or_false] at h
    rcases h with rfl | rfl | rfl | rfl | rfl <;> rfl
  rw [hreading, twosComplement_eq hpos member.littleEndian_val_lt]
  rfl

theorem reading?_of_notMem {width : Nat} (h : width ∉ [1, 2, 4, 8, 16])
    (member : StoredMember width) : member.reading? = none := by
  rw [reading?]
  all_goals
    rintro - rfl -
    exact h (by decide)

/-- What is stored for a number in the range of the width is read again. -/
theorem signedValue_ofValue {width : Nat} (hwidth : 0 < width) {value : Int}
    (hlow : -(2 ^ (8 * width - 1) : Nat) ≤ value) (hhigh : value < (2 ^ (8 * width - 1) : Nat)) :
    (ofValue width value).signedValue = value := by
  have hpos : 0 < 8 * width := by omega
  have hread : twosComplement (8 * width) (littleEndian (ofValue width value).val) = value :=
    twosComplement_emod hpos hlow hhigh (littleEndian_storedBytes width value)
  rwa [twosComplement_eq hpos (ofValue width value).littleEndian_val_lt] at hread

end StoredMember

section

variable {width : Nat}

/-- Every member is read, and the bit of one is enough. -/
theorem anyNegative_eq_any (h : width ∈ [1, 2, 4, 8, 16]) (members : List (StoredMember width)) :
    anyNegative members = .ok (members.any (·.signBit)) := by
  induction members with
  | nil => rfl
  | cons member rest ih =>
    have hsign : decide (member.signedValue < 0) = member.signBit := by
      rw [Bool.eq_iff_iff, decide_eq_true_iff]
      exact member.signedValue_neg_iff
    simp only [anyNegative, member.reading?_of_mem h, ih, Except.map, hsign, List.any_cons]

theorem measureEnumeration_of_mem (h : width ∈ [1, 2, 4, 8, 16])
    (members : List (StoredMember width)) :
    measureEnumeration members =
      Representation.ofSize width (.ofSigned (members.any (·.signBit))) := by
  rw [measureEnumeration, anyNegative_eq_any h]
  rfl

/-- The first member is the one without a reading, and without members the type is missing. -/
theorem measureEnumeration_of_notMem (h : width ∉ [1, 2, 4, 8, 16])
    (members : List (StoredMember width)) :
    measureEnumeration members =
      .error (.unrepresentableWidth width (if members = [] then .unsigned else .signed)) := by
  cases members with
  | nil => exact Representation.ofSize_of_notMem h
  | cons member rest =>
    simp only [measureEnumeration, anyNegative, member.reading?_of_notMem h]
    rfl

theorem exists_measureEnumeration (h : width ∈ [1, 2, 4, 8, 16])
    (members : List (StoredMember width)) :
    ∃ r, measureEnumeration members = .ok r ∧ r.size = width ∧
      r.cls = .ofSigned (members.any (·.signBit)) := by
  have hknown : width ∈ (NumberClass.ofSigned (members.any (·.signBit))).widths := by
    cases members.any (·.signBit) <;> exact h
  rw [measureEnumeration_of_mem h]
  exact ⟨⟨width, _, hknown⟩, Representation.ofSize_self ⟨width, _, hknown⟩, rfl, rfl⟩

theorem any_signBit_eq_of_mem_iff {members others : List (StoredMember width)}
    (h : ∀ m, m ∈ members ↔ m ∈ others) :
    members.any (·.signBit) = others.any (·.signBit) := by
  rw [Bool.eq_iff_iff, List.any_eq_true, List.any_eq_true]
  simp only [h]

/-- Only what the members are matters, not their order or how often each is there. -/
theorem measureEnumeration_eq_of_mem_iff {members others : List (StoredMember width)}
    (h : ∀ m, m ∈ members ↔ m ∈ others) :
    measureEnumeration members = measureEnumeration others := by
  by_cases hwidth : width ∈ [1, 2, 4, 8, 16]
  · rw [measureEnumeration_of_mem hwidth, measureEnumeration_of_mem hwidth,
      any_signBit_eq_of_mem_iff h]
  · have hempty : members = [] ↔ others = [] := by
      simp only [List.eq_nil_iff_forall_not_mem, h]
    rw [measureEnumeration_of_notMem hwidth, measureEnumeration_of_notMem hwidth]
    simp only [hempty]

/-- The sign of an enumeration that is measured is the most significant bit of some member. -/
theorem cls_measureEnumeration {members : List (StoredMember width)} {r : Representation}
    (h : measureEnumeration members = .ok r) :
    r.size = width ∧ (r.cls = .signed ↔ ∃ m ∈ members, m.signBit = true) ∧
      (r.cls = .unsigned ↔ ∀ m ∈ members, m.signBit = false) := by
  by_cases hwidth : width ∈ [1, 2, 4, 8, 16]
  · obtain ⟨t, ht, hsize, hcls⟩ := exists_measureEnumeration hwidth members
    obtain rfl : t = r := Except.ok.inj (ht.symm.trans h)
    refine ⟨hsize, ?_, ?_⟩
    · rw [hcls, ← List.any_eq_true]
      cases members.any (·.signBit) <;> decide
    · have hnone : (∀ m ∈ members, m.signBit = false) ↔ members.any (·.signBit) = false := by
        simp only [List.any_eq_false, Bool.not_eq_true]
      rw [hcls, hnone]
      cases members.any (·.signBit) <;> decide
  · rw [measureEnumeration_of_notMem hwidth] at h
    cases h

/-- An enumeration of a width that integers come in is signed exactly if the most significant bit is
set in one of its members, which is to say that the member reads as a negative number. The other
widths are refused. -/
theorem measureEnumeration_bySignBit (members : List (StoredMember width)) :
    (width ∈ [1, 2, 4, 8, 16] →
        (∃ r, measureEnumeration members = .ok r ∧ r.size = width ∧
          (r.cls = .signed ↔ ∃ m ∈ members, m.signBit = true) ∧
          (r.cls = .unsigned ↔ ∀ m ∈ members, m.signBit = false)) ∧
        (∀ m : StoredMember width,
          m.reading? = some m.signedValue ∧ (m.signedValue < 0 ↔ m.signBit = true)) ∧
        ∀ value : Int, -(2 ^ (8 * width - 1) : Nat) ≤ value →
          value < (2 ^ (8 * width - 1) : Nat) →
          (StoredMember.ofValue width value).signedValue = value) ∧
      (∀ others, (∀ m, m ∈ members ↔ m ∈ others) →
        measureEnumeration others = measureEnumeration members) ∧
      (∀ more r t, members ⊆ more → measureEnumeration members = .ok r →
        measureEnumeration more = .ok t → r.cls = .signed → t.cls = .signed) ∧
      (width ∉ [1, 2, 4, 8, 16] →
        measureEnumeration members =
          .error (.unrepresentableWidth width (if members = [] then .unsigned else .signed))) := by
  refine ⟨fun hwidth => ⟨?_, fun m => ⟨m.reading?_of_mem hwidth, m.signedValue_neg_iff⟩, ?_⟩,
    fun others h => (measureEnumeration_eq_of_mem_iff h).symm, ?_,
    fun hwidth => measureEnumeration_of_notMem hwidth members⟩
  · obtain ⟨r, hr, -, -⟩ := exists_measureEnumeration hwidth members
    exact ⟨r, hr, cls_measureEnumeration hr⟩
  · intro value hlow hhigh
    have hpos : 0 < width := by
      simp only [List.mem_cons, List.not_mem_nil, or_false] at hwidth
      omega
    exact StoredMember.signedValue_ofValue hpos hlow hhigh
  · intro more r t hsubset hr ht hsigned
    obtain ⟨m, hm, hbit⟩ := (cls_measureEnumeration hr).2.1.mp hsigned
    exact (cls_measureEnumeration ht).2.1.mpr ⟨m, hsubset hm, hbit⟩

end

/-- Two members of two bytes, the second with its most significant bit set. -/
def shortMembers : List (StoredMember 2) :=
  [⟨[0xff, 0x7f], rfl⟩, ⟨[0x00, 0x80], rfl⟩]

theorem shortMembers_signed_and_threeBytes_refused :
    (∃ r t, measureEnumeration shortMembers = .ok r ∧ r.size = 2 ∧ r.cls = .signed ∧
        measureEnumeration (.ofValue 2 7 :: shortMembers) = .ok t ∧ t.cls = .signed) ∧
      measureEnumeration (shortMembers.reverse ++ shortMembers) =
        measureEnumeration shortMembers ∧
      (StoredMember.ofValue 2 (-32768)).signedValue = -32768 ∧
      @measureEnumeration 3 [⟨[0, 0, 0x80], rfl⟩] = .error (.unrepresentableWidth 3 .signed) := by
  obtain ⟨hread, hsame, hmore, -⟩ := measureEnumeration_bySignBit shortMembers
  obtain ⟨⟨r, hr, hsize, hsigned, -⟩, -, hvalue⟩ := hread (by decide)
  obtain ⟨⟨t, ht, -⟩, -⟩ :=
    (measureEnumeration_bySignBit (.ofValue 2 7 :: shortMembers)).1 (by decide)
  have hcls : r.cls = .signed := hsigned.mpr (by decide)
  have ht' := hmore _ r t (List.subset_cons_self _ _) hr ht hcls
  refine ⟨⟨r, t, hr, hsize, hcls, ht, ht'⟩, hsame _ fun m => ?_,
    hvalue _ (by decide) (by decide), (measureEnumeration_bySignBit _).2.2.2 (by decide)⟩
  rw [List.mem_append, List.mem_reverse, or_self]

end AbiBindings
