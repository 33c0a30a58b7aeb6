import StoryRules.Json.Printer
import StoryRules.Json.Reader
import StoryRules.Proofs.Decimal.Conversion

/-!
# Numbers are read back

What a number is written as is a numeral: a sign, digits, digits behind a point, and a power of ten.  The
reader takes a numeral apart just there, up to the first character that could not belong to it.  A floating number
that is infinite or none is written as a word instead, and read as the number that the word is for.

    x.Printable → Ends rest → atom ⟨amountChars x ++ rest, _⟩ = .ok (.num x, ⟨rest, _⟩)      (atom_amount)
-/

namespace StoryRules

/-- A whole number of at most as many digits as are read. -/
def WritableWhole (n : Int) : Prop := n.natAbs < 10 ^ digitLimit

/-- A number that a JSON text can hold: a whole number with few enough digits, or a finite floating number. -/
def Amount.Writable : Amount → Prop
  | .int n => WritableWhole n
  | .float x => x.isFinite = true

/-- A number that a JSON text can hold, or that there is a word for. -/
def Amount.Printable : Amount → Prop
  | .int n => WritableWhole n
  | .float _ => True

end StoryRules

namespace StoryRules.Json

open Decimal Float.Model UnpackedFloat Amount

/-! ## Digits -/

def AllDigits (cs : List Char) : Prop := ∀ c ∈ cs, c.isDigit = true

/-- The number that a run of digits writes. -/
def digitsValue (cs : List Char) : ℕ := ofDigits (cs.map fun d => d.toNat - 48)

theorem digitsValue_eq (cs : List Char) : digitsValue cs = Nat.ofDigitChars 10 cs 0 := by
  unfold digitsValue ofDigits
  rw [List.foldl_map, Nat.ofDigitChars_eq_foldl]
  congr 1
  funext n d
  rw [mul_comm]
  rfl

theorem digitsValue_toDigits (n : ℕ) : digitsValue (Nat.toDigits 10 n) = n := by
  rw [digitsValue_eq, Nat.ofDigitChars_ten_toDigits]

theorem allDigits_toDigits (n : ℕ) : AllDigits (Nat.toDigits 10 n) :=
  fun _ h => Nat.isDigit_of_mem_toDigits (by decide) (by decide) h

/-- Only zero is written with a zero in front. -/
theorem head_toDigits_ne {n : ℕ} (hn : 0 < n) : (Nat.toDigits 10 n).head? ≠ some '0' := by
  induction n using Nat.strong_induction_on with
  | _ n ih =>
    rw [Nat.toDigits_eq_if (by decide)]
    split
    · next hlt =>
      interval_cases n <;> decide
    · rw [List.head?_append_of_ne_nil _ Nat.toDigits_ne_nil]
      exact ih (n / 10) (Nat.div_lt_self hn (by decide)) (by omega)

/-- A text goes on with no character that a numeral could have. -/
def Ends (rest : List Char) : Prop :=
  ∀ c ∈ rest.head?, c.isDigit = false ∧ c ≠ '.' ∧ c ≠ 'e' ∧ c ≠ 'E'

theorem takeWhile_digits {cs rest : List Char} (hcs : AllDigits cs)
    (hrest : ∀ c ∈ rest.head?, c.isDigit = false) : (cs ++ rest).takeWhile Char.isDigit = cs := by
  rw [List.takeWhile_append_of_pos hcs]
  cases rest with
  | nil => simp
  | cons c rest => simp [hrest c rfl]

theorem skip_append (cs rest : List Char) (offset : ℕ) :
    Cursor.skip cs.length ⟨cs ++ rest, offset⟩ = ⟨rest, offset + cs.length⟩ := by
  unfold Cursor.skip
  rw [List.drop_left]

/-! ## Numerals -/

/-- An unsigned numeral: whole digits, digits behind a point, and a signed power of ten. -/
structure Literal where
  whole : List Char
  fraction : List Char := []
  power : Option (Bool × List Char) := none

namespace Literal

variable (l : Literal)

def fractionChars : List Char := if l.fraction.isEmpty then [] else '.' :: l.fraction

def powerChars : List Char :=
  match l.power with
  | none => []
  | some (negative, digits) => 'e' :: (if negative then '-' else '+') :: digits

/-- The sign and the digits of the power. -/
def powerParts : List Char × List Char :=
  match l.power with
  | none => ([], [])
  | some (negative, digits) => ([if negative then '-' else '+'], digits)

def chars : List Char := l.whole ++ (l.fractionChars ++ l.powerChars)

structure WellFormed : Prop where
  whole : AllDigits l.whole
  nonempty : l.whole ≠ []
  leading : l.whole.head? = some '0' → l.whole = ['0']
  fraction : AllDigits l.fraction
  power : ∀ p ∈ l.power, AllDigits p.2 ∧ p.2 ≠ []

theorem WellFormed.first {l : Literal} (h : l.WellFormed) :
    ∃ c cs, l.whole = c :: cs ∧ c.isDigit = true := by
  obtain ⟨c, cs, hwhole⟩ := List.exists_cons_of_ne_nil h.nonempty
  exact ⟨c, cs, hwhole, h.whole c (by rw [hwhole]; exact List.mem_cons_self)⟩

def powerValue : ℤ :=
  match l.power with
  | none => 0
  | some (negative, digits) => if negative then -(digitsValue digits : ℤ) else digitsValue digits

/-- The decimal that the numeral writes. -/
def scientific : Scientific :=
  ⟨digitsValue (l.whole ++ l.fraction), l.powerValue - l.fraction.length⟩

/-- What the numeral is read as. -/
def datum (negative : Bool) : Datum Amount :=
  if l.fraction.isEmpty && l.power.isNone then
    .num (.int (if negative then -(digitsValue l.whole : ℤ) else digitsValue l.whole))
  else .num (.float (if negative then -l.scientific.toFloat else l.scientific.toFloat))

end Literal

def signChars (negative : Bool) : List Char := if negative then ['-'] else []

/-- The whole digits at the front, of which a leading zero is the only one. -/
def wholeOf (cs : List Char) : List Char :=
  if cs.head? = some '0' then ['0'] else cs.takeWhile Char.isDigit

/-- The digits behind a point at the front. -/
def fractionOf (cs : List Char) : List Char :=
  match cs with
  | '.' :: rest => rest.takeWhile Char.isDigit
  | _ => []

/-- The sign and the digits behind an `e` at the front. -/
def powerOf (cs : List Char) : List Char × List Char :=
  match cs with
  | e :: rest =>
    if e = 'e' || e = 'E' then
      match rest with
      | '-' :: rest => (['-'], rest.takeWhile Char.isDigit)
      | '+' :: rest => (['+'], rest.takeWhile Char.isDigit)
      | rest => ([], rest.takeWhile Char.isDigit)
    else ([], [])
  | [] => ([], [])

/-- Reading an unsigned numeral. -/
theorem numeral_eq (c : Cursor) :
    numeral c =
      let negative := c.rest.head? = some '-'
      let unsigned := if negative then c.skip 1 else c
      let whole := wholeOf unsigned.rest
      if whole.isEmpty then c.fail .value
      else
        let afterWhole := unsigned.skip whole.length
        let fraction := fractionOf afterWhole.rest
        let afterFraction :=
          if fraction.isEmpty then afterWhole else afterWhole.skip (fraction.length + 1)
        let power := powerOf afterFraction.rest
        let after :=
          if power.2.isEmpty then afterFraction
          else afterFraction.skip (1 + power.1.length + power.2.length)
        if fraction.isEmpty && power.2.isEmpty then
          if whole.length > digitLimit then .error (.tooManyDigits whole.length)
          else .ok (.num (.int (if negative then -(digitsValue whole : ℤ) else digitsValue whole)), after)
        else
          let exponent : ℤ := if power.1 = ['-'] then -(digitsValue power.2 : ℤ) else digitsValue power.2
          let x := (Scientific.mk (digitsValue (whole ++ fraction)) (exponent - fraction.length)).toFloat
          .ok (.num (.float (if negative then -x else x)), after) :=
  rfl

/-! ### Reading the parts of a literal -/

theorem head_signed (negative : Bool) {l : Literal} (h : l.WellFormed) (rest : List Char) :
    (signChars negative ++ (l.chars ++ rest)).head? = some '-' ↔ negative = true := by
  obtain ⟨c, cs, hwhole, hc⟩ := h.first
  have hminus : c ≠ '-' := by
    rintro rfl
    exact absurd hc (by decide)
  cases negative
  · simp [signChars, Literal.chars, hwhole, hminus]
  · simp [signChars]

theorem skip_sign (negative : Bool) (cs : List Char) (offset : ℕ) :
    (if negative = true then Cursor.skip 1 ⟨signChars negative ++ cs, offset⟩
      else ⟨signChars negative ++ cs, offset⟩) = ⟨cs, offset + (signChars negative).length⟩ := by
  cases negative <;> rfl

theorem skip_fraction (l : Literal) (cs : List Char) (offset : ℕ) :
    (if l.fraction.isEmpty = true then ⟨l.fractionChars ++ cs, offset⟩
      else Cursor.skip (l.fraction.length + 1) ⟨l.fractionChars ++ cs, offset⟩) =
      (⟨cs, offset + l.fractionChars.length⟩ : Cursor) := by
  unfold Literal.fractionChars
  cases l.fraction with
  | nil => rfl
  | cons d ds => exact skip_append ('.' :: d :: ds) cs offset

theorem skip_power (l : Literal) (cs : List Char) (offset : ℕ) :
    (if l.power.isNone = true then ⟨l.powerChars ++ cs, offset⟩
      else Cursor.skip (1 + l.powerParts.1.length + l.powerParts.2.length) ⟨l.powerChars ++ cs, offset⟩) =
      (⟨cs, offset + l.powerChars.length⟩ : Cursor) := by
  unfold Literal.powerChars Literal.powerParts
  cases l.power with
  | none => rfl
  | some p =>
    have hlength : 1 + 1 + p.2.length = ('e' :: (if p.1 then '-' else '+') :: p.2).length := by
      simp only [List.length_cons]
      omega
    show Cursor.skip (1 + 1 + p.2.length) _ = _
    rw [hlength]
    exact skip_append _ cs offset

/-- A power has digits if there is one. -/
theorem isEmpty_power {l : Literal} (h : l.WellFormed) : l.powerParts.2.isEmpty = l.power.isNone := by
  unfold Literal.powerParts
  cases hpower : l.power with
  | none => rfl
  | some p => simpa using (h.power p hpower).2

theorem powerValue_eq (l : Literal) : (if l.powerParts.1 = ['-'] then -(digitsValue l.powerParts.2 : ℤ)
    else digitsValue l.powerParts.2) = l.powerValue := by
  unfold Literal.powerParts Literal.powerValue
  cases l.power with
  | none => rfl
  | some p =>
    obtain ⟨negative, digits⟩ := p
    cases negative <;> rfl

section

variable {l : Literal} (h : l.WellFormed) {rest : List Char} (hrest : Ends rest)

include h hrest

theorem powerOf_literal : powerOf (l.powerChars ++ rest) = l.powerParts := by
  unfold Literal.powerChars Literal.powerParts
  cases hpower : l.power with
  | none =>
    cases rest with
    | nil => rfl
    | cons c rest =>
      obtain ⟨-, -, he, hE⟩ := hrest c rfl
      simp [powerOf, he, hE]
  | some p =>
    obtain ⟨negative, digits⟩ := p
    have hdigits := takeWhile_digits (h.power _ hpower).1 fun c hc => (hrest c hc).1
    cases negative <;> simp [powerOf, hdigits]

omit h in
/-- What follows the fraction goes on with no digit and no point. -/
theorem head_power : ∀ c ∈ (l.powerChars ++ rest).head?, c.isDigit = false ∧ c ≠ '.' := by
  unfold Literal.powerChars
  cases l.power with
  | none => exact fun c hc => ⟨(hrest c hc).1, (hrest c hc).2.1⟩
  | some p =>
    rintro c ⟨⟩
    exact ⟨by decide, by decide⟩

theorem fractionOf_literal : fractionOf (l.fractionChars ++ (l.powerChars ++ rest)) = l.fraction := by
  have htail := head_power (l := l) hrest
  unfold Literal.fractionChars
  cases hfraction : l.fraction with
  | nil =>
    simp only [List.isEmpty_nil, if_true, List.nil_append]
    cases hpower : l.powerChars ++ rest with
    | nil => rfl
    | cons c cs =>
      have hpoint : c ≠ '.' := (htail c (by rw [hpower]; rfl)).2
      simp [fractionOf, hpoint]
  | cons d ds =>
    have hdigits := takeWhile_digits h.fraction fun c hc => (htail c hc).1
    rw [hfraction] at hdigits
    simpa [fractionOf] using hdigits

theorem wholeOf_literal : wholeOf (l.chars ++ rest) = l.whole := by
  have hhead : ∀ c ∈ (l.fractionChars ++ l.powerChars ++ rest).head?, c.isDigit = false := by
    unfold Literal.fractionChars
    split
    · exact fun c hc => (head_power hrest c hc).1
    · rintro c ⟨⟩
      decide
  obtain ⟨c, cs, hwhole, -⟩ := h.first
  have hfirst : (l.chars ++ rest).head? = l.whole.head? := by
    unfold Literal.chars
    simp [hwhole]
  unfold wholeOf
  rw [hfirst]
  split
  · next hzero => exact (h.leading hzero).symm
  · unfold Literal.chars
    rw [List.append_assoc]
    exact takeWhile_digits h.whole hhead

/-- A numeral is read as what it writes, up to its end. -/
theorem numeral_literal (hlimit : l.whole.length ≤ digitLimit) (negative : Bool) (offset : ℕ) :
    numeral ⟨signChars negative ++ (l.chars ++ rest), offset⟩ =
      .ok (l.datum negative, ⟨rest, offset + (signChars negative ++ l.chars).length⟩) := by
  have hempty : l.whole.isEmpty = false := by simp [h.nonempty]
  have hwhole : Cursor.skip l.whole.length ⟨l.chars ++ rest, offset + (signChars negative).length⟩ =
      ⟨l.fractionChars ++ (l.powerChars ++ rest),
        offset + (signChars negative).length + l.whole.length⟩ := by
    unfold Literal.chars
    rw [List.append_assoc, List.append_assoc]
    exact skip_append ..
  have hend : offset + (signChars negative).length + l.whole.length + l.fractionChars.length +
      l.powerChars.length = offset + (signChars negative ++ l.chars).length := by
    simp only [Literal.chars, List.length_append]
    omega
  rw [numeral_eq]
  simp only [head_signed negative h, skip_sign, wholeOf_literal h hrest, hempty, hwhole,
    fractionOf_literal h hrest, skip_fraction, powerOf_literal h hrest, isEmpty_power h, skip_power,
    powerValue_eq, hend, Bool.false_eq_true, if_false, if_neg (Nat.not_lt.2 hlimit)]
  unfold Literal.datum Literal.scientific
  split <;> rfl

end

/-! ## Floating numbers -/

theorem digitsValue_append (cs ds : List Char) :
    digitsValue (cs ++ ds) = digitsValue cs * 10 ^ ds.length + digitsValue ds := by
  simp only [digitsValue_eq]
  rw [Nat.ofDigitChars_append, Nat.ofDigitChars_eq_ofDigitChars_zero, mul_comm]

theorem digitsValue_zeros (n : ℕ) : digitsValue (List.replicate n '0') = 0 := by
  rw [digitsValue_eq, Nat.ofDigitChars_replicate_zero, mul_zero]

theorem allDigits_zeros (n : ℕ) : AllDigits (List.replicate n '0') := by
  intro c hc
  rw [List.eq_of_mem_replicate hc]
  rfl

theorem AllDigits.append {cs ds : List Char} (hcs : AllDigits cs) (hds : AllDigits ds) :
    AllDigits (cs ++ ds) := fun c hc => (List.mem_append.1 hc).elim (hcs c) (hds c)

/-- A literal writes a decimal, as a real numeral. -/
structure Literal.Writes (l : Literal) (d : Scientific) : Prop where
  wellFormed : l.WellFormed
  short : l.whole.length ≤ 16
  real : (l.fraction.isEmpty && l.power.isNone) = false
  value : l.scientific.value = d.value
  exponent : min d.exponent (-1) ≤ l.scientific.exponent

/-- A literal with a fraction and no power writes its digits, with the exponent that the fraction has. -/
theorem writes_positional {whole fraction : List Char} {d : Scientific} (hwhole : AllDigits whole)
    (hnonempty : whole ≠ []) (hleading : whole.head? = some '0' → whole = ['0'])
    (hshort : whole.length ≤ 16) (hfraction : AllDigits fraction) (hsome : fraction ≠ [])
    (hvalue : (Scientific.mk (digitsValue (whole ++ fraction)) (-fraction.length)).value = d.value)
    (hexponent : min d.exponent (-1) ≤ -fraction.length) : (Literal.mk whole fraction none).Writes d := by
  have hscientific : (Literal.mk whole fraction none).scientific =
      ⟨digitsValue (whole ++ fraction), -fraction.length⟩ := by
    show Scientific.mk _ (0 - _) = _
    rw [Int.zero_sub]
  exact ⟨⟨hwhole, hnonempty, hleading, hfraction, nofun⟩, hshort, by simp [hsome],
    by rw [hscientific, hvalue], by rw [hscientific]; exact hexponent⟩

theorem chars_whole (whole : List Char) : (Literal.mk whole [] none).chars = whole := by
  simp [Literal.chars, Literal.fractionChars, Literal.powerChars]

theorem chars_positional (whole : List Char) {fraction : List Char} (hsome : fraction ≠ []) :
    (Literal.mk whole fraction none).chars = whole ++ '.' :: fraction := by
  simp [Literal.chars, Literal.fractionChars, Literal.powerChars, hsome]

/-- The digits of a positive number. -/
structure DigitsOf (cs : List Char) (n : ℕ) : Prop where
  digits : AllDigits cs
  nonempty : cs ≠ []
  leading : cs.head? ≠ some '0'
  value : digitsValue cs = n

theorem digitsOf_toDigits {n : ℕ} (hn : 0 < n) : DigitsOf (Nat.toDigits 10 n) n :=
  ⟨allDigits_toDigits n, Nat.toDigits_ne_nil, head_toDigits_ne hn, digitsValue_toDigits n⟩

section

variable {d : Scientific} {digits : List Char} (h : DigitsOf digits d.digits) {whole : ℤ}
  (hwhole : whole = d.exponent + digits.length)

include h hwhole

/-- The point stands in front of all digits, and of zeros. -/
theorem writes_before (hneg : whole ≤ 0) :
    (Literal.mk ['0'] (List.replicate (-whole).toNat '0' ++ digits) none).Writes d := by
  have hlength : (List.replicate (-whole).toNat '0' ++ digits).length = -d.exponent := by
    rw [List.length_append, List.length_replicate]
    omega
  refine writes_positional (allDigits_zeros 1) (by simp) (fun _ => rfl) (by simp)
    ((allDigits_zeros _).append h.digits) (by simp [h.nonempty]) ?_ (by omega)
  rw [← List.append_assoc, ← List.replicate_one, ← List.replicate_add, digitsValue_append,
    digitsValue_zeros, h.value, hlength, neg_neg, zero_mul, zero_add]

/-- Zeros stand between the digits and the point. -/
theorem writes_behind (hlong : digits.length ≤ whole) (hshort : whole ≤ 16) :
    (Literal.mk (digits ++ List.replicate (whole.toNat - digits.length) '0') ['0'] none).Writes d := by
  obtain ⟨k, hk⟩ : ∃ k : ℕ, d.exponent = k := ⟨d.exponent.toNat, by omega⟩
  have hzeros : whole.toNat - digits.length = k := by omega
  refine writes_positional (h.digits.append (allDigits_zeros _)) (by simp [h.nonempty]) ?_ ?_
    (allDigits_zeros 1) (by simp) ?_ (min_le_right ..)
  · intro hzero
    rw [List.head?_append_of_ne_nil _ h.nonempty] at hzero
    exact absurd hzero h.leading
  · rw [List.length_append, List.length_replicate]
    omega
  · rw [hzeros, List.append_assoc, ← List.replicate_one, ← List.replicate_add, digitsValue_append,
      digitsValue_zeros, h.value, List.length_replicate, List.length_replicate]
    unfold Scientific.value
    rw [hk, zpow_natCast]
    push_cast
    rw [pow_succ]
    norm_num
    ring

/-- The point stands between two digits. -/
theorem writes_inside (hpos : 0 < whole) (hinside : whole < digits.length) (hshort : whole ≤ 16) :
    (Literal.mk (digits.take whole.toNat) (digits.drop whole.toNat) none).Writes d := by
  have hfew : whole.toNat ≠ 0 := by omega
  have hrest : digits.drop whole.toNat ≠ [] := by
    rw [Ne, List.drop_eq_nil_iff]
    omega
  have hlength : ((digits.drop whole.toNat).length : ℤ) = -d.exponent := by
    rw [List.length_drop]
    omega
  refine writes_positional (fun c hc => h.digits c (List.mem_of_mem_take hc)) ?_ ?_ ?_
    (fun c hc => h.digits c (List.mem_of_mem_drop hc)) hrest ?_ (by omega)
  · rw [Ne, List.take_eq_nil_iff]
    exact not_or.2 ⟨hfew, h.nonempty⟩
  · intro hzero
    rw [List.head?_take, if_neg hfew] at hzero
    exact absurd hzero h.leading
  · rw [List.length_take]
    omega
  · rw [List.take_append_drop, h.value, hlength, neg_neg]

/-- The point stands where the exponent says, behind zeros if it has to. -/
theorem layoutPositional_writes (hshort : whole ≤ 16) :
    ∃ l : Literal, layoutPositional digits whole = l.chars ∧ l.Writes d := by
  have hsome : digits ≠ [] := h.nonempty
  unfold layoutPositional
  split
  · next hneg =>
    refine ⟨_, ?_, writes_before h hwhole hneg⟩
    rw [chars_positional _ (by simp [hsome])]
    simp
  · split
    · next hpos hlong =>
      refine ⟨_, ?_, writes_behind h hwhole (by omega) hshort⟩
      rw [chars_positional _ (by simp)]
    · next hpos hinside =>
      refine ⟨_, ?_, writes_inside h hwhole (by omega) (by omega) hshort⟩
      rw [chars_positional]
      rw [Ne, List.drop_eq_nil_iff]
      omega

end

/-- One whole digit, the others behind the point, and a power that makes up for it. -/
theorem writes_scientific {d : Scientific} {c : Char} {cs power : List Char}
    (h : DigitsOf (c :: cs) d.digits) (hpower : AllDigits power) (hsome : power ≠ [])
    (hvalue : digitsValue power = (d.exponent + cs.length).natAbs) :
    (Literal.mk [c] cs (some (decide (d.exponent + cs.length < 0), power))).Writes d := by
  have hsigned : (if decide (d.exponent + cs.length < 0) = true then -(digitsValue power : ℤ)
      else digitsValue power) = d.exponent + cs.length := by
    simp only [hvalue, decide_eq_true_eq]
    split <;> omega
  have hscientific : (Literal.mk [c] cs (some (decide (d.exponent + cs.length < 0), power))).scientific =
      d := by
    have hdigits := h.value
    unfold Literal.scientific Literal.powerValue
    cases d
    dsimp only at hsigned hdigits ⊢
    rw [hsigned, List.singleton_append, hdigits, Int.add_sub_cancel]
  refine ⟨⟨fun e he => h.digits e ?_, by simp, fun hzero => absurd hzero h.leading,
    fun e he => h.digits e (List.mem_cons_of_mem _ he), ?_⟩, by simp, by simp, by rw [hscientific], ?_⟩
  · rw [List.mem_singleton.1 he]
    exact List.mem_cons_self
  · rintro p ⟨⟩
    exact ⟨hpower, hsome⟩
  · rw [hscientific]
    exact min_le_left ..

/-- The exponent stands behind the digits, of which the first is whole. -/
theorem layoutScientific_writes {d : Scientific} {digits : List Char} (h : DigitsOf digits d.digits) :
    ∃ l : Literal, layoutScientific digits (d.exponent + digits.length - 1) = l.chars ∧ l.Writes d := by
  obtain ⟨c, cs, rfl⟩ := List.exists_cons_of_ne_nil h.nonempty
  have hexponent : d.exponent + ((c :: cs).length : ℤ) - 1 = d.exponent + cs.length := by
    rw [List.length_cons]
    omega
  have hpower : AllDigits
      (List.replicate (2 - (Nat.toDigits 10 (d.exponent + cs.length).natAbs).length) '0' ++
        Nat.toDigits 10 (d.exponent + cs.length).natAbs) :=
    (allDigits_zeros _).append (allDigits_toDigits _)
  rw [hexponent]
  refine ⟨_, ?_, writes_scientific h hpower (by simp) ?_⟩
  · unfold layoutScientific Literal.chars Literal.fractionChars Literal.powerChars
    cases cs <;> simp
  · rw [digitsValue_append, digitsValue_zeros, digitsValue_toDigits, zero_mul, zero_add]

/-- The text of a decimal is a literal that writes it. -/
theorem layout_writes {d : Scientific} (hd : 0 < d.digits) :
    ∃ l : Literal, d.layout = l.chars ∧ l.Writes d := by
  unfold Scientific.layout
  dsimp only
  split
  · next h => exact layoutPositional_writes (digitsOf_toDigits hd) (Int.sub_add_cancel ..) (by omega)
  · exact layoutScientific_writes (digitsOf_toDigits hd)

/-- A numeral, with its sign, writes a value. -/
structure Numeral (text : List Char) (d : Datum Amount) (negative : Bool) (l : Literal) : Prop where
  chars : text = signChars negative ++ l.chars
  wellFormed : l.WellFormed
  short : l.whole.length ≤ digitLimit
  datum : l.datum negative = d

theorem signChars_toList (negative : Bool) :
    (if negative = true then "-" else "").toList = signChars negative := by
  cases negative <;> rfl

/-- A positive number, negated if there is a sign, is the number with that sign. -/
theorem ofModel_pack_signed {m : ℕ} {e : ℤ} (hm : 0 < m) (hcanonical : Canonical m e) (hmost : e ≤ 971)
    (negative : Bool) :
    (if negative = true then -Float.ofModel (Float.Model.pack (.finite .positive m e hm))
      else Float.ofModel (Float.Model.pack (.finite .positive m e hm))) =
    Float.ofModel (Float.Model.pack
      (.finite (if negative = true then .negative else .positive) m e hm)) := by
  cases negative with
  | false => rfl
  | true =>
    have hunpack := unpack_pack_finite .positive hm hcanonical
    rw [if_pos hmost] at hunpack
    show Float.ofModel (Float.Model.pack (UnpackedFloat.unpack Format.binary64
      (UnpackedFloat.pack Format.binary64 (.finite .positive m e hm))).neg) = _
    rw [hunpack]
    rfl

theorem numeral_zero (negative : Bool) : Numeral (signChars negative ++ ['0', '.', '0'])
    (.num (.float (if negative = true then -0.0 else 0.0))) negative ⟨['0'], ['0'], none⟩ where
  chars := rfl
  wellFormed := ⟨allDigits_zeros 1, by simp, fun _ => rfl, allDigits_zeros 1, nofun⟩
  short := by decide
  datum := rfl

/-- The shortest digits of a canonical number write it. -/
theorem numeral_shortest {m : ℕ} {e : ℤ} (hm : 0 < m) (hcanonical : Canonical m e) (hmost : e ≤ 971)
    (negative : Bool) :
    ∃ l, Numeral (signChars negative ++ (Binary.ofCanonical m e).shortest.layout)
      (.num (.float (Float.ofModel (Float.Model.pack
        (.finite (if negative = true then .negative else .positive) m e hm))))) negative l := by
  have hregular := Binary.regular_ofCanonical hcanonical
  obtain ⟨hholds, hexponent⟩ := holds_shortest (x := Binary.ofCanonical m e) hm hcanonical.least
  obtain ⟨l, hlayout, hwrites⟩ := layout_writes (hholds.digits_pos hm)
  rw [← hwrites.value] at hholds
  have hleast : -1074 ≤ l.scientific.exponent := by
    have := hwrites.exponent
    omega
  refine ⟨l, by rw [hlayout], hwrites.wellFormed, hwrites.short.trans (by decide), ?_⟩
  unfold Literal.datum
  rw [hwrites.real, if_neg Bool.false_ne_true, Binary.Holds.toFloat_eq hregular hm hmost hholds hleast]
  exact congrArg (fun y => Datum.num (Amount.float y)) (ofModel_pack_signed hm hcanonical hmost negative)

/-- The text of a finite floating number writes that number. -/
theorem float_numeral {x : Float} (hx : x.isFinite = true) :
    ∃ negative l, Numeral (floatText x).toList (.num (.float x)) negative l := by
  have hnan : x.isNaN = x.toModel.unpack.isNaN := rfl
  have hinf : x.isInf = x.toModel.unpack.isInf := rfl
  have hfinite : x.toModel.unpack.isFinite = true := hx
  have hback := ofModel_pack_unpack x
  obtain ⟨negative, hbit⟩ : ∃ negative : Bool, x.toBits >>> 63 = 1 ↔ negative = true :=
    ⟨decide (x.toBits >>> 63 = 1), by simp⟩
  refine ⟨negative, ?_⟩
  unfold floatText
  simp only [hnan, hinf, hbit]
  cases h : x.toModel.unpack with
  | notANumber => simp [h, UnpackedFloat.isFinite] at hfinite
  | infinity s => simp [h, UnpackedFloat.isFinite] at hfinite
  | zero s =>
    obtain ⟨hsign, hmantissa⟩ := unpack_zero (b := x.toBits) h
    unfold magnitude at hmantissa
    simp only [hbit] at hsign
    have hzero : (if negative = true then -(0.0 : Float) else 0.0) = x := by
      rw [← hback, h, hsign]
      cases negative <;> rfl
    have hnumeral := numeral_zero negative
    rw [hzero] at hnumeral
    refine ⟨⟨['0'], ['0'], none⟩, ?_⟩
    simp only [UnpackedFloat.isNaN, UnpackedFloat.isInf, Bool.false_eq_true, if_false, hmantissa, if_true,
      String.toList_append, signChars_toList]
    exact hnumeral
  | finite s m e hm =>
    obtain ⟨hsign, hmagnitude, hcanonical, hmost⟩ := unpack_finite (b := x.toBits) h
    change _ = Binary.ofCanonical m e at hmagnitude
    unfold magnitude at hmagnitude
    simp only [hbit] at hsign
    have hmantissa : (Binary.ofCanonical m e).mantissa ≠ 0 := hm.ne'
    obtain ⟨l, hnumeral⟩ := numeral_shortest hm hcanonical hmost negative
    rw [← hsign, ← h, hback] at hnumeral
    refine ⟨l, ?_⟩
    simpa only [UnpackedFloat.isNaN, UnpackedFloat.isInf, Bool.false_eq_true, if_false, hmagnitude,
      String.toList_append, signChars_toList, if_neg hmantissa, String.toList_ofList] using hnumeral

/-! ## Whole numbers -/

/-- The text of a whole number with few digits writes that number. -/
theorem whole_numeral {n : ℤ} (hn : WritableWhole n) :
    ∃ negative l, Numeral (toString n).toList (.num (.int n)) negative l := by
  have hshort : (Nat.toDigits 10 n.natAbs).length ≤ digitLimit :=
    (Nat.length_toDigits_le_iff (by decide) (by decide)).2 hn
  have hwellFormed : (Literal.mk (Nat.toDigits 10 n.natAbs) [] none).WellFormed := by
    refine ⟨allDigits_toDigits _, Nat.toDigits_ne_nil, fun hzero => ?_, nofun, nofun⟩
    rcases Nat.eq_zero_or_pos n.natAbs with h | h
    · rw [h]
      rfl
    · exact absurd hzero (head_toDigits_ne h)
  refine ⟨decide (n < 0), ⟨Nat.toDigits 10 n.natAbs, [], none⟩, ?_, hwellFormed, hshort, ?_⟩
  · rw [chars_whole]
    show n.repr.toList = _
    cases n with
    | ofNat k => exact Nat.toList_repr
    | negSucc k =>
      show ("-" ++ (k + 1).repr).toList = _
      rw [String.toList_append, Nat.toList_repr, decide_eq_true (Int.negSucc_lt_zero k)]
      rfl
  · unfold Literal.datum
    simp only [List.isEmpty_nil, Option.isNone_none, Bool.and_self, if_true, digitsValue_toDigits,
      decide_eq_true_eq]
    congr 2
    split <;> omega

/-! ## Amounts -/

/-- A finite floating number is a number, and not infinite. -/
theorem number_of_isFinite {x : Float} (hx : x.isFinite = true) : x.isNaN = false ∧ x.isInf = false := by
  change x.toModel.unpack.isFinite = true at hx
  show x.toModel.unpack.isNaN = false ∧ x.toModel.unpack.isInf = false
  cases h : x.toModel.unpack with
  | notANumber | infinity s =>
    rw [h] at hx
    cases hx
  | zero s | finite s m e hm => exact ⟨rfl, rfl⟩

theorem amount_numeral {x : Amount} (hx : x.Writable) :
    ∃ negative l, Numeral (amountChars x) (.num x) negative l := by
  cases x with
  | int n => exact whole_numeral hx
  | float x =>
    obtain ⟨hnan, hinf⟩ := number_of_isFinite hx
    unfold amountChars
    simp only [hnan, hinf, Bool.false_eq_true, if_false]
    exact float_numeral hx

/-- A word begins with no digit, and not with a minus and a digit either. -/
theorem words_start : ∀ word ∈ words, ∃ a b letters, word.1 = a :: b :: letters ∧
    a.isDigit = false ∧ (a = '-' → b.isDigit = false) := by
  simp only [words, List.forall_mem_cons]
  exact ⟨⟨_, _, _, rfl, by decide, by decide⟩, ⟨_, _, _, rfl, by decide, by decide⟩,
    ⟨_, _, _, rfl, by decide, by decide⟩, ⟨_, _, _, rfl, by decide, by decide⟩,
    ⟨_, _, _, rfl, by decide, by decide⟩, ⟨_, _, _, rfl, by decide, by decide⟩, nofun⟩

/-- A numeral is taken for no word. -/
theorem find_words {text : List Char} {d : Datum Amount} {negative : Bool} {l : Literal}
    (h : Numeral text d negative l) (rest : List Char) :
    (words.find? fun word => word.1.isPrefixOf (text ++ rest)) = none := by
  obtain ⟨c, cs, hwhole, hc⟩ := h.wellFormed.first
  rw [h.chars, List.find?_eq_none]
  intro word hword hpre
  obtain ⟨a, b, letters, hletters, ha, hb⟩ := words_start word hword
  rw [hletters, List.isPrefixOf_iff_prefix] at hpre
  unfold Literal.chars at hpre
  rw [hwhole] at hpre
  cases negative with
  | false =>
    obtain ⟨rfl, -⟩ := List.cons_prefix_cons.1 hpre
    rw [ha] at hc
    cases hc
  | true =>
    obtain ⟨hminus, hrest⟩ := List.cons_prefix_cons.1 hpre
    obtain ⟨hsecond, -⟩ := List.cons_prefix_cons.1 hrest
    rw [← hsecond, hb hminus] at hc
    cases hc

/-! ## Words -/

theorem atom_word : ∀ word ∈ words, ∀ rest offset,
    atom ⟨word.1 ++ rest, offset⟩ = .ok (word.2, ⟨rest, offset + word.1.length⟩) := by
  simp only [words, List.forall_mem_cons]
  exact ⟨fun _ _ => rfl, fun _ _ => rfl, fun _ _ => rfl, fun _ _ => rfl, fun _ _ => rfl, fun _ _ => rfl, nofun⟩

/-- A floating number that is infinite or none is written as its word. -/
theorem mem_words {x : Float} (hx : x.isFinite = false) :
    (amountChars (.float x), Datum.num (.float x)) ∈ words := by
  have hback := ofModel_pack_unpack x
  change x.toModel.unpack.isFinite = false at hx
  cases h : x.toModel.unpack with
  | notANumber =>
    obtain rfl : x = 0.0 / 0.0 := by
      rw [← hback, h]
      rfl
    exact .tail _ (.tail _ (.tail _ (.head _)))
  | infinity s =>
    cases s with
    | positive =>
      obtain rfl : x = 1.0 / 0.0 := by
        rw [← hback, h]
        rfl
      exact .tail _ (.tail _ (.tail _ (.tail _ (.head _))))
    | negative =>
      obtain rfl : x = -1.0 / 0.0 := by
        rw [← hback, h]
        rfl
      exact .tail _ (.tail _ (.tail _ (.tail _ (.tail _ (.head _)))))
  | zero s | finite s m e hm =>
    rw [h] at hx
    cases hx

theorem writable_or_word {x : Amount} (hx : x.Printable) :
    x.Writable ∨ (amountChars x, Datum.num x) ∈ words := by
  cases x with
  | int n => exact .inl hx
  | float f =>
    cases hf : f.isFinite with
    | true => exact .inl hf
    | false => exact .inr (mem_words hf)

/-- A number is read back, as a numeral or as a word. -/
theorem atom_amount {x : Amount} (hx : x.Printable) {rest : List Char} (hrest : Ends rest) (offset : ℕ) :
    atom ⟨amountChars x ++ rest, offset⟩ =
      .ok (.num x, ⟨rest, offset + (amountChars x).length⟩) := by
  rcases writable_or_word hx with hwritable | hword
  · obtain ⟨negative, l, h⟩ := amount_numeral hwritable
    unfold atom
    dsimp only
    rw [find_words h rest]
    dsimp only
    rw [h.chars, List.append_assoc, numeral_literal h.wellFormed hrest h.short, h.datum]
  · exact atom_word _ hword rest offset

end StoryRules.Json
