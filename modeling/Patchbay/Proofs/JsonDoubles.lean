-- Doubles in data files. One with a value is always read back as some double, a short one
-- as itself, and one that is infinite or no number is written as null, which is no number.
import Patchbay.Proofs.Rescaling

namespace Patchbay.Json

open Number

variable {x : Float} {negative : Bool} {m s : Nat}

/-! ## Doubles with a value -/

/-- A double that is neither infinite nor no number. -/
def HasValue (x : Float) : Prop := ∃ negative m s, Number.exact x = .finite negative m s

instance (x : Float) : Decidable (HasValue x) :=
  match h : Number.exact x with
  | .finite negative m s => isTrue ⟨negative, m, s, h⟩
  | .nan => isFalse fun ⟨_, _, _, h'⟩ => Number.Exact.noConfusion (h.symm.trans h')
  | .infinite _ => isFalse fun ⟨_, _, _, h'⟩ => Number.Exact.noConfusion (h.symm.trans h')

/-- Bits that stand for a value are kept as they are. Others may all be read as one double. -/
theorem toBits_ofBits {bits : UInt64} (h : HasValue (.ofBits bits)) :
    (Float.ofBits bits).toBits = bits := by
  have hvalid : Float.Model.Format.binary64.Valid bits.toBitVec := by
    refine ⟨fun hexponent hmantissa => ?_⟩
    have hunpack : Float.Model.UnpackedFloat.unpack .binary64 bits.toBitVec = .notANumber := by
      unfold Float.Model.UnpackedFloat.unpack
      simp only
      rw [if_pos hexponent, if_neg hmantissa]
    have hnan : Float.ofBits bits = .ofModel (.pack .notANumber) :=
      congrArg (fun u => Float.ofModel (.pack u)) hunpack
    rw [hnan] at h
    exact absurd h (by decide)
  exact congrArg UInt64.ofBitVec (pack_unpack hvalid)

theorem atom_of_exact (h : Number.exact x = .finite negative m s) : (atom (.number x)).toList =
    if negative then '-' :: (dataSpelling m s).text else (dataSpelling m s).text := by
  unfold atom
  dsimp only
  rw [dataText?_eq h, Option.getD_some, String.toList_ofList]

/-- The text of a double is read as the digits and the power of ten in it make. -/
theorem takes_float_of_scale (h : Number.exact x = .finite negative m s) {y : Float}
    (hy : ∀ cs, Reader.scale 8 (Number.ofNat (dataSpelling m s).taken.1)
      (dataSpelling m s).exponent cs = .done y cs) :
    Takes Reader.float (atom (.number x)).toList (.ok (if negative then -y else y)) := by
  have hvalid := dataSpelling_valid (exact_finite h).1
  intro gap rest hgap hrest
  rw [atom_of_exact h]
  have hnumeral := Reader.anyNumeral_text negative hvalid hgap hrest
  have hdouble : Reader.double negative (dataSpelling m s).taken.1 (dataSpelling m s).exponent
      rest = .done (.double (if negative then -y else y)) rest := Action.bind_of_done (hy rest)
  have hfloat : Reader.float (gap ++ (if negative then '-' :: (dataSpelling m s).text
      else (dataSpelling m s).text) ++ rest) = .done (if negative then -y else y) rest :=
    Action.bind_of_done (hnumeral.trans hdouble)
  rw [hfloat]
  exact ⟨rfl, rfl⟩

/-! ## Doubles without a value -/

/-- A double without a value is written as null. -/
theorem atom_of_no_value (h : ¬HasValue x) : atom (.number x) = "null" := by
  unfold atom dataText?
  cases hx : Number.exact x with
  | finite negative m s => exact absurd ⟨negative, m, s, hx⟩ h
  | nan => simp [hx]
  | infinite => simp [hx]

/-- Null is no number. -/
theorem takes_null : Takes Reader.float "null".toList (.error .mismatch) := by
  intro gap rest hgap _
  have hother : (Reader.otherShape : Reader Reader.Numeral) ("null".toList ++ rest) =
      .failed .mismatch rest := rfl
  have hnumeral : Reader.anyNumeral (gap ++ ("null".toList ++ rest)) = .failed .mismatch rest :=
    (Reader.peekPastSpace_bind _ hgap rfl _).trans hother
  have hfloat : Reader.float (gap ++ ("null".toList ++ rest)) = .failed .mismatch rest :=
    Action.bind_of_failed hnumeral
  rw [List.append_assoc, hfloat]
  rfl

/-! ## Reading back -/

/-- What a double is read back as from its own text. -/
def reread (x : Float) : Except Problem Float := Reader.float.run (atom (.number x))

theorem reread_of_takes {result : Except Problem Float}
    (h : Takes Reader.float (atom (.number x)).toList result) : reread x = result := by
  have hrun := Reader.run_of_takes h
  rwa [String.ofList_toList] at hrun

/-- A double with a value is read back as some double. -/
theorem exists_reread (h : HasValue x) : ∃ y, reread x = .ok y := by
  obtain ⟨negative, m, s, h⟩ := h
  obtain ⟨y, hy⟩ := scale_dataSpelling (exact_finite h).1
  exact ⟨_, reread_of_takes (takes_float_of_scale h hy)⟩

theorem reread_of_no_value (h : ¬HasValue x) : reread x = .error .mismatch := by
  refine reread_of_takes ?_
  rw [atom_of_no_value h]
  exact takes_null

theorem mismatch_of_reread {problem : Problem} (h : reread x = .error problem) :
    problem = .mismatch := by
  by_cases hx : HasValue x
  · obtain ⟨y, hy⟩ := exists_reread hx
    cases hy.symm.trans h
  · cases (reread_of_no_value hx).symm.trans h
    rfl

/-- A double in a document is read as it is from its own text. -/
theorem takes_float (x : Float) : Takes Reader.float (atom (.number x)).toList (reread x) := by
  by_cases hx : HasValue x
  · obtain ⟨negative, m, s, h⟩ := hx
    obtain ⟨y, hy⟩ := scale_dataSpelling (exact_finite h).1
    have htakes := takes_float_of_scale h hy
    rwa [reread_of_takes htakes]
  · rw [reread_of_no_value hx, atom_of_no_value hx]
    exact takes_null

/-- A double that is written with digits and a power of ten that are doubles themselves: up
to fifteen digits, not far from the point. -/
def WrittenShort (x : Float) : Prop :=
  ∃ negative m s, Number.exact x = .finite negative m s ∧ (dataSpelling m s).decimal.IsShort

instance (x : Float) : Decidable (WrittenShort x) :=
  match h : Number.exact x with
  | .finite negative m s =>
    if hshort : (dataSpelling m s).decimal.IsShort then isTrue ⟨negative, m, s, h, hshort⟩
    else isFalse fun ⟨_, _, _, h', hshort'⟩ => by
      cases h.symm.trans h'
      exact hshort hshort'
  | .nan => isFalse fun ⟨_, _, _, h', _⟩ => Number.Exact.noConfusion (h.symm.trans h')
  | .infinite _ => isFalse fun ⟨_, _, _, h', _⟩ => Number.Exact.noConfusion (h.symm.trans h')

theorem WrittenShort.hasValue (h : WrittenShort x) : HasValue x := by
  obtain ⟨negative, m, s, hx, -⟩ := h
  exact ⟨negative, m, s, hx⟩

/-- A double that is written short is read back as itself. -/
theorem reread_of_short (h : WrittenShort x) : reread x = .ok x := by
  obtain ⟨negative, m, s, hx, hshort⟩ := h
  have hfinite := (exact_finite hx).1
  have hword : (dataSpelling m s).decimal.digits < Reader.wordLimit :=
    Nat.lt_trans hshort.digits (by decide)
  obtain ⟨hvalue, hexponent⟩ := Spelling.taken_eq hword
  have hscale : ∀ cs, Reader.scale 8 (Number.ofNat (dataSpelling m s).taken.1)
      (dataSpelling m s).exponent cs = .done (ofMagnitude false (bitsOf m s)) cs := by
    intro cs
    rw [hvalue, hexponent, scale_short hshort cs, magnitude_dataSpelling hfinite]
  rw [reread_of_takes (takes_float_of_scale hx hscale)]
  congr 1
  cases negative with
  | false => exact ofMagnitude_finite hx
  | true => exact (neg_ofMagnitude hfinite.bits_lt false).trans (ofMagnitude_finite hx)

/-- A field that is a double. -/
theorem Reader.fills_number {δ : Type} {write : Nat → Json → List Char} (hwrite : LaidOut write)
    {fields : List (Reader.Field δ)} {rest : List (String × List Char)} {draft : δ}
    {set : Float → δ} {next : Float → Except Problem δ} {key : String} (level : Nat) (x : Float)
    (field : Reader.Field δ) (hfind : fields.find? (·.name = key) = some field)
    (hnew : field.given draft = false)
    (hread : field.read draft = Reader.float >>= fun x => pure (set x))
    (hrest : ∀ x, Fills fields rest (set x) (next x)) :
    Fills fields ((key, write level (.number x)) :: rest) draft (reread x >>= next) := by
  refine .cons field hfind hnew hread ?_ fun b _ => hrest b
  rw [hwrite.number]
  exact takes_float x

end Patchbay.Json
