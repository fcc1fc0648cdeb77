import Mathlib
import Throttle.Json.Reader
import Throttle.Json.Printer

/-! # Reading written JSON back

What `Json.Value.write` writes, `Json.readValue` reads back, whatever text `ft` floats are
written in and whatever `ofParts` makes floats from the decimals read: the program's own
`render` and `read` are one such pair. A string comes back as itself however it was escaped:
each escape reads back as its character whatever follows it
(`Json.readStringBody_escapeChar`). An integer below `2 ^ 64` and a boolean come back as
themselves. A number is read up to the first character that cannot continue it, so what
follows a comma or a closing brace never changes how it reads (`Json.readNumber_append`),
and what is left after it is always the end of the text (`Json.readNumber_leaves`). A float
written with digits, points, exponent marks and minus signs only reads inside an object
exactly as its text reads standing alone (`Json.readsIn_float`): the object goes on after it
only when the number text is read whole.
-/

namespace Throttle

namespace Json

variable {ofParts : Bool → Nat → Int → Option Binary64} {ft : Binary64 → String}

/-! ## Numbers -/

@[simp] theorem toOption_ok {ε α : Type} (a : α) : (Except.ok a : Except ε α).toOption = some a := rfl

@[simp] theorem toOption_error {ε α : Type} (e : ε) : (Except.error e : Except ε α).toOption = none := rfl

/-- A character at which a number ends, whatever came before it: not a digit, a point, an
exponent mark or a sign. -/
def EndsNumber (c : Char) : Prop :=
  c.isDigit = false ∧ c ≠ '.' ∧ c ≠ 'e' ∧ c ≠ 'E' ∧ c ≠ '+' ∧ c ≠ '-'

/-- A reading with more text after what it leaves. -/
def withRest (t : List Char) (p : Value × List Char) : Value × List Char := (p.1, p.2 ++ t)

variable {c : Char} {r : List Char}

theorem integerDigits_append (hc : c.isDigit = false) (sig : Nat) (exp : Int) (long : Bool)
    (cs : List Char) :
    integerDigits sig exp long (cs ++ c :: r) =
      ((integerDigits sig exp long cs).1, (integerDigits sig exp long cs).2.1,
        (integerDigits sig exp long cs).2.2 ++ c :: r) := by
  induction cs generalizing sig exp long with
  | nil => simp [integerDigits, hc]
  | cons d cs ih =>
      simp only [List.cons_append, integerDigits]
      split
      · split <;> exact ih ..
      · rfl

theorem fractionDigits_append (hc : c.isDigit = false) (sig : Nat) (exp : Int) (count : Nat)
    (dropping : Bool) (cs : List Char) :
    fractionDigits sig exp count dropping (cs ++ c :: r) =
      let t := fractionDigits sig exp count dropping cs
      (t.1, t.2.1, t.2.2.1, t.2.2.2 ++ c :: r) := by
  induction cs generalizing sig exp count dropping with
  | nil => simp [fractionDigits, hc]
  | cons d cs ih =>
      simp only [List.cons_append, fractionDigits]
      split
      · split <;> exact ih ..
      · rfl

theorem exponentDigits_append (hc : c.isDigit = false) (e : Nat) (cs : List Char) :
    exponentDigits e (cs ++ c :: r) =
      match exponentDigits e cs with
      | .inl (v, rest) => .inl (v, rest ++ c :: r)
      | .inr rest => .inr (rest ++ c :: r) := by
  induction cs generalizing e with
  | nil => simp [exponentDigits, hc]
  | cons d cs ih =>
      simp only [List.cons_append, exponentDigits]
      split
      · split
        · rfl
        · exact ih _
      · rfl

theorem floatOf_toOption (negative : Bool) (sig : Nat) (exp : Int) (rest : List Char) :
    (floatOf ofParts negative sig exp rest).toOption = (ofParts negative sig exp).map fun x => (.float x, rest) := by
  unfold floatOf
  split <;> simp_all

theorem floatOf_append (negative : Bool) (sig : Nat) (exp : Int) (rest t : List Char) :
    (floatOf ofParts negative sig exp (rest ++ t)).toOption =
      (floatOf ofParts negative sig exp rest).toOption.map (withRest t) := by
  simp only [floatOf_toOption, Option.map_map]
  rfl

/-- The sign of an exponent, as `readExponent` reads it, and the text after it. -/
def exponentSign : List Char → Bool × List Char
  | '+' :: r => (false, r)
  | '-' :: r => (true, r)
  | r => (false, r)

/-- The exponent after its sign, as `readExponent` reads it: its digits and the float they
make. -/
def exponentBody (ofParts : Bool → Nat → Int → Option Binary64) (negative : Bool) (sig : Nat) (exp : Int) (down : Bool) :
    List Char → Except ReadError (Value × List Char)
  | [] => .error (.after .eofInValue [])
  | c :: rest =>
    if !c.isDigit then .error (.after .invalidNumber rest)
    else
      match exponentDigits (digitValue c) rest with
      | .inl (e, rest) => floatOf ofParts negative sig (clampExponent (if down then exp - e else exp + e)) rest
      | .inr rest =>
        if sig != 0 && !down then .error (.after .numberOutOfRange rest)
        else .ok (.float (if negative then -0 else 0), rest.dropWhile Char.isDigit)

theorem readExponent_eq (negative : Bool) (sig : Nat) (exp : Int) (cs : List Char) :
    readExponent ofParts negative sig exp cs =
      exponentBody ofParts negative sig exp (exponentSign cs).1 (exponentSign cs).2 := by
  rfl

theorem exponentBody_append (hc : c.isDigit = false) (negative : Bool) (sig : Nat) (exp : Int)
    (down : Bool) (cs : List Char) :
    (exponentBody ofParts negative sig exp down (cs ++ c :: r)).toOption =
      (exponentBody ofParts negative sig exp down cs).toOption.map (withRest (c :: r)) := by
  cases cs with
  | nil => simp [exponentBody, hc]
  | cons d cs =>
      simp only [List.cons_append, exponentBody]
      split
      · rfl
      · rw [exponentDigits_append hc]
        rcases exponentDigits (digitValue d) cs with ⟨v, rest⟩ | rest
        · exact floatOf_append ..
        · dsimp only
          split
          · rfl
          · simp [withRest, List.dropWhile_append, hc]

theorem exponentSign_append (hplus : c ≠ '+') (hminus : c ≠ '-') (cs : List Char) :
    exponentSign (cs ++ c :: r) = ((exponentSign cs).1, (exponentSign cs).2 ++ c :: r) := by
  cases cs with
  | nil => unfold exponentSign; split <;> simp_all
  | cons d cs => unfold exponentSign; split <;> simp_all

theorem readExponent_append (hc : EndsNumber c) (negative : Bool) (sig : Nat) (exp : Int)
    (cs : List Char) :
    (readExponent ofParts negative sig exp (cs ++ c :: r)).toOption =
      (readExponent ofParts negative sig exp cs).toOption.map (withRest (c :: r)) := by
  obtain ⟨hd, -, -, -, hplus, hminus⟩ := hc
  rw [readExponent_eq, readExponent_eq, exponentSign_append hplus hminus, exponentBody_append hd]

/-- A number that ends after its integer digits, before `rest`, as `readNumberTail` reads
it: an integer when it fits, else a float. -/
def integerEnd (ofParts : Bool → Nat → Int → Option Binary64) (negative : Bool) (sig : Nat) (exp : Int) (long : Bool) (rest : List Char) :
    Except ReadError (Value × List Char) :=
  if long then floatOf ofParts negative sig exp rest
  else if !negative then .ok (.int sig, rest)
  else if sig = 0 ∨ sig > Nat.pow 2 63 then .ok (.float (-(Binary64.ofNat sig)), rest)
  else .ok (.int (-(sig : Int)), rest)

/-- What follows the digits of a fraction, as `readNumberTail` reads it: an exponent, or
the end of the number. -/
def fractionEnd (ofParts : Bool → Nat → Int → Option Binary64) (negative : Bool) (sig : Nat) (exp : Int) :
    List Char → Except ReadError (Value × List Char)
  | c :: r => if c = 'e' ∨ c = 'E' then readExponent ofParts negative sig exp r else floatOf ofParts negative sig exp (c :: r)
  | [] => floatOf ofParts negative sig exp []

theorem readNumberTail_nil (negative : Bool) (sig : Nat) (exp : Int) (long : Bool) :
    readNumberTail ofParts negative sig exp long [] = integerEnd ofParts negative sig exp long [] := rfl

theorem readNumberTail_cons {d : Char} (hd : d ≠ '.') (negative : Bool) (sig : Nat) (exp : Int)
    (long : Bool) (rest : List Char) :
    readNumberTail ofParts negative sig exp long (d :: rest) =
      if d = 'e' ∨ d = 'E' then readExponent ofParts negative sig exp rest
      else integerEnd ofParts negative sig exp long (d :: rest) := by
  rw [readNumberTail.eq_2 _ _ _ _ _ _ _ (by simpa using hd)]
  rfl

theorem readNumberTail_point (negative : Bool) (sig : Nat) (exp : Int) (long : Bool) (rest : List Char) :
    readNumberTail ofParts negative sig exp long ('.' :: rest) =
      let t := fractionDigits sig exp 0 false rest
      if t.2.2.1 = 0 then
        match t.2.2.2 with
        | [] => .error (.before .eofInValue [])
        | r => .error (.before .invalidNumber r)
      else fractionEnd ofParts negative t.1 t.2.1 t.2.2.2 := by
  rw [readNumberTail.eq_1]
  rfl

theorem integerEnd_append (negative : Bool) (sig : Nat) (exp : Int) (long : Bool) (rest t : List Char) :
    (integerEnd ofParts negative sig exp long (rest ++ t)).toOption =
      (integerEnd ofParts negative sig exp long rest).toOption.map (withRest t) := by
  unfold integerEnd
  split
  · exact floatOf_append ..
  · split
    · rfl
    · split <;> rfl

theorem fractionEnd_append (hc : EndsNumber c) (negative : Bool) (sig : Nat) (exp : Int)
    (cs : List Char) :
    (fractionEnd ofParts negative sig exp (cs ++ c :: r)).toOption =
      (fractionEnd ofParts negative sig exp cs).toOption.map (withRest (c :: r)) := by
  obtain ⟨-, -, he, hE, -⟩ := id hc
  cases cs with
  | nil => simpa [fractionEnd, he, hE] using floatOf_append negative sig exp [] (c :: r)
  | cons d cs =>
      simp only [List.cons_append, fractionEnd]
      split
      · exact readExponent_append hc ..
      · exact floatOf_append negative sig exp (d :: cs) (c :: r)

theorem readNumberTail_append (hc : EndsNumber c) (negative : Bool) (sig : Nat) (exp : Int)
    (long : Bool) (cs : List Char) :
    (readNumberTail ofParts negative sig exp long (cs ++ c :: r)).toOption =
      (readNumberTail ofParts negative sig exp long cs).toOption.map (withRest (c :: r)) := by
  obtain ⟨hdigit, hdot, he, hE, -⟩ := id hc
  cases cs with
  | nil =>
      rw [List.nil_append, readNumberTail_cons hdot, readNumberTail_nil, if_neg (by simp [he, hE])]
      exact integerEnd_append negative sig exp long [] (c :: r)
  | cons d cs =>
      by_cases hd : d = '.'
      · subst hd
        rw [List.cons_append, readNumberTail_point, readNumberTail_point, fractionDigits_append hdigit]
        dsimp only
        split
        · split <;> split <;> rfl
        · exact fractionEnd_append hc ..
      · rw [List.cons_append, readNumberTail_cons hd, readNumberTail_cons hd]
        split
        · exact readExponent_append hc ..
        · exact integerEnd_append negative sig exp long (d :: cs) (c :: r)

/-- Text after a number that starts with a character ending it changes nothing in how the
number reads. -/
theorem readNumber_append (hc : EndsNumber c) (negative : Bool) (cs : List Char) :
    (readNumber ofParts negative (cs ++ c :: r)).toOption =
      (readNumber ofParts negative cs).toOption.map (withRest (c :: r)) := by
  obtain ⟨hdigit, -⟩ := id hc
  have hzero : c ≠ '0' := fun h => by simp [h] at hdigit
  cases cs with
  | nil => simp [readNumber, hzero, hdigit]
  | cons d cs =>
      simp only [List.cons_append, readNumber]
      split
      · cases cs with
        | nil => simpa [hdigit] using readNumberTail_append hc negative 0 0 false []
        | cons e cs =>
            simp only [List.cons_append]
            split
            · rfl
            · exact readNumberTail_append hc negative 0 0 false (e :: cs)
      · split
        · rw [integerDigits_append hdigit]
          exact readNumberTail_append hc ..
        · rfl

/-! ## What a reading leaves is the end of the text read -/

/-- Every successful reading of `cs` leaves an end of `cs`. -/
def LeavesSuffix (cs : List Char) (res : Except ReadError (Value × List Char)) : Prop :=
  ∀ p, res = .ok p → p.2 <:+ cs

theorem LeavesSuffix.mono {cs cs' : List Char} {res : Except ReadError (Value × List Char)}
    (h : LeavesSuffix cs res) (hs : cs <:+ cs') : LeavesSuffix cs' res :=
  fun p hp => (h p hp).trans hs

theorem integerDigits_suffix (sig : Nat) (exp : Int) (long : Bool) (cs : List Char) :
    (integerDigits sig exp long cs).2.2 <:+ cs := by
  induction cs generalizing sig exp long with
  | nil => exact List.suffix_refl _
  | cons d cs ih =>
      simp only [integerDigits]
      split
      · split <;> exact (ih ..).trans (List.suffix_cons d cs)
      · exact List.suffix_refl _

theorem fractionDigits_suffix (sig : Nat) (exp : Int) (count : Nat) (dropping : Bool)
    (cs : List Char) : (fractionDigits sig exp count dropping cs).2.2.2 <:+ cs := by
  induction cs generalizing sig exp count dropping with
  | nil => exact List.suffix_refl _
  | cons d cs ih =>
      simp only [fractionDigits]
      split
      · split <;> exact (ih ..).trans (List.suffix_cons d cs)
      · exact List.suffix_refl _

theorem exponentDigits_suffix (e : Nat) (cs : List Char) :
    Sum.elim Prod.snd id (exponentDigits e cs) <:+ cs := by
  induction cs generalizing e with
  | nil => exact List.suffix_refl _
  | cons d cs ih =>
      unfold exponentDigits
      split
      · split
        · exact List.suffix_cons d cs
        · exact (ih _).trans (List.suffix_cons d cs)
      · exact List.suffix_refl _

theorem floatOf_leaves (negative : Bool) (sig : Nat) (exp : Int) (rest : List Char) :
    LeavesSuffix rest (floatOf ofParts negative sig exp rest) := by
  intro p hp
  unfold floatOf at hp
  split at hp
  · cases hp
    exact List.suffix_refl _
  · cases hp

theorem integerEnd_leaves (negative : Bool) (sig : Nat) (exp : Int) (long : Bool) (rest : List Char) :
    LeavesSuffix rest (integerEnd ofParts negative sig exp long rest) := by
  intro p hp
  unfold integerEnd at hp
  split at hp
  · exact floatOf_leaves negative sig exp rest p hp
  · repeat' split at hp
    all_goals cases hp; exact List.suffix_refl _

theorem exponentBody_leaves (negative : Bool) (sig : Nat) (exp : Int) (down : Bool) (cs : List Char) :
    LeavesSuffix cs (exponentBody ofParts negative sig exp down cs) := by
  intro p hp
  cases cs with
  | nil => cases hp
  | cons d cs =>
      simp only [exponentBody] at hp
      have hsuffix := exponentDigits_suffix (digitValue d) cs
      split at hp
      · cases hp
      · generalize exponentDigits (digitValue d) cs = res at hp hsuffix
        rcases res with ⟨v, rest⟩ | rest <;> dsimp only [Sum.elim_inl, Sum.elim_inr, id] at hp hsuffix
        · exact (floatOf_leaves _ _ _ rest p hp).trans (hsuffix.trans (List.suffix_cons d cs))
        · split at hp
          · cases hp
          · cases hp
            exact ((List.dropWhile_suffix _).trans hsuffix).trans (List.suffix_cons d cs)

theorem exponentSign_suffix (cs : List Char) : (exponentSign cs).2 <:+ cs := by
  unfold exponentSign
  split
  · exact List.suffix_cons _ _
  · exact List.suffix_cons _ _
  · exact List.suffix_refl _

theorem readExponent_leaves (negative : Bool) (sig : Nat) (exp : Int) (cs : List Char) :
    LeavesSuffix cs (readExponent ofParts negative sig exp cs) := by
  rw [readExponent_eq]
  exact (exponentBody_leaves negative sig exp _ _).mono (exponentSign_suffix cs)

theorem fractionEnd_leaves (negative : Bool) (sig : Nat) (exp : Int) (cs : List Char) :
    LeavesSuffix cs (fractionEnd ofParts negative sig exp cs) := by
  cases cs with
  | nil => exact floatOf_leaves negative sig exp []
  | cons d cs =>
      simp only [fractionEnd]
      split
      · exact (readExponent_leaves negative sig exp cs).mono (List.suffix_cons d cs)
      · exact floatOf_leaves negative sig exp (d :: cs)

theorem readNumberTail_leaves (negative : Bool) (sig : Nat) (exp : Int) (long : Bool)
    (cs : List Char) : LeavesSuffix cs (readNumberTail ofParts negative sig exp long cs) := by
  cases cs with
  | nil => exact integerEnd_leaves negative sig exp long []
  | cons d cs =>
      by_cases hd : d = '.'
      · subst hd
        rw [readNumberTail_point]
        dsimp only
        intro p hp
        split at hp
        · split at hp <;> cases hp
        · exact ((fractionEnd_leaves negative _ _ _).mono
            ((fractionDigits_suffix sig exp 0 false cs).trans (List.suffix_cons _ cs))) p hp
      · rw [readNumberTail_cons hd]
        split
        · exact (readExponent_leaves negative sig exp cs).mono (List.suffix_cons d cs)
        · exact integerEnd_leaves negative sig exp long (d :: cs)

/-- A number reading leaves the end of the text after the number. -/
theorem readNumber_leaves (negative : Bool) (cs : List Char) :
    LeavesSuffix cs (readNumber ofParts negative cs) := by
  intro p hp
  cases cs with
  | nil => cases hp
  | cons d cs =>
      simp only [readNumber] at hp
      split at hp
      · split at hp
        · split at hp
          · cases hp
          · exact (readNumberTail_leaves negative 0 0 false _ p hp).trans (List.suffix_cons d _)
        · exact (readNumberTail_leaves negative 0 0 false _ p hp).trans (List.suffix_cons d _)
      · split at hp
        · exact (readNumberTail_leaves negative _ _ _ _ p hp).trans
            ((integerDigits_suffix (digitValue d) 0 false cs).trans (List.suffix_cons d cs))
        · cases hp


/-! ## Strings -/

theorem hex4_toList_of_lt {n : Nat} (h : n < 32) :
    (hex4 n).toList = ['0', '0', (n / 16).digitChar, (n % 16).digitChar] := by
  have key : ∀ m : Fin 32, List.replicate (4 - (Nat.toDigits 16 m).length) '0' ++ Nat.toDigits 16 m =
      ['0', '0', (m / 16 : Nat).digitChar, (m % 16 : Nat).digitChar] := by decide
  simpa [hex4] using key ⟨n, h⟩

theorem hexValue_digitChar {k : Nat} (h : k < 16) : hexValue k.digitChar = some k := by
  have key : ∀ m : Fin 16, hexValue (m : Nat).digitChar = some m := by decide
  exact key ⟨k, h⟩

theorem readHex4_hex4 {n : Nat} (h : n < 32) (rest : List Char) :
    readHex4 ((hex4 n).toList ++ rest) = .ok (n, rest) := by
  have h0 : hexValue '0' = some 0 := by decide
  rw [hex4_toList_of_lt h]
  simp only [List.cons_append, List.nil_append, readHex4, h0,
    hexValue_digitChar (show n / 16 < 16 by omega), hexValue_digitChar (Nat.mod_lt n (by decide : 16 > 0))]
  congr 2
  omega

/-- The escape of a control character reads back as that character, whatever follows. -/
theorem readUnicodeEscape_hex4 {n : Nat} (h : n < 32) (rest : List Char) :
    readUnicodeEscape ((hex4 n).toList ++ rest) = .ok (Char.ofNat n, rest) := by
  have htrail : isTrailing n = false := by simp [isTrailing]; omega
  have hlead : isLeading n = false := by simp [isLeading]; omega
  simp [readUnicodeEscape, readHex4_hex4 h, bind, Except.bind, htrail, hlead, pure, Except.pure]

/-- One escaped character reads back as itself, whatever follows it. -/
theorem readStringBody_escapeChar (acc : List Char) (ch : Char) (rest : List Char) :
    readStringBody acc ((escapeChar ch).toList ++ rest) = readStringBody (ch :: acc) rest := by
  unfold escapeChar
  split
  · next h => subst h; simpa using readStringBody.eq_3 acc rest
  split
  · next h => subst h; simpa using readStringBody.eq_4 acc rest
  split
  · next h => subst h; simpa using readStringBody.eq_8 acc rest
  split
  · next h => subst h; simpa using readStringBody.eq_9 acc rest
  split
  · next h => subst h; simpa using readStringBody.eq_10 acc rest
  split
  · next h => subst h; simpa using readStringBody.eq_6 acc rest
  split
  · next h => subst h; simpa using readStringBody.eq_7 acc rest
  split
  · -- a control character without a short escape goes as four hexadecimal digits
    next hctl =>
    have hlen : 0 < (hex4 ch.toNat).toList.length := by simp [hex4_toList_of_lt hctl]
    simpa [readUnicodeEscape_hex4 hctl, hlen] using readStringBody.eq_11 acc ((hex4 ch.toNat).toList ++ rest)
  · next hquote hslash _ _ _ _ _ hctl =>
    simpa [hctl] using readStringBody.eq_14 acc ch rest hquote hslash

/-- A string's escaped characters, then its closing quote, read back as the string. -/
theorem readStringBody_escaped (acc : List Char) (cs : List Char) (rest : List Char) :
    readStringBody acc ((String.join (cs.map escapeChar)).toList ++ '"' :: rest) =
      .ok (String.ofList (acc.reverse ++ cs), rest) := by
  induction cs generalizing acc with
  | nil => simpa using readStringBody.eq_2 acc rest
  | cons ch cs ih =>
      simp only [List.map_cons, String.join_cons, String.toList_append, List.append_assoc,
        readStringBody_escapeChar, ih, List.reverse_cons, List.singleton_append]

/-! ## Decimal digits -/

theorem digitValue_digitChar {k : Nat} (h : k < 10) : digitValue k.digitChar = k := by
  have key : ∀ m : Fin 10, digitValue (m : Nat).digitChar = m := by decide
  exact key ⟨k, h⟩

/-- From ten on, the decimal digits of a number are those of its tenth and then its last
digit. -/
theorem toDigits_ten_of_le {n : Nat} (h : 10 ≤ n) :
    Nat.toDigits 10 n = Nat.toDigits 10 (n / 10) ++ [(n % 10).digitChar] := by
  rw [← Nat.toDigits_of_lt_base (Nat.mod_lt n (by decide)),
    Nat.toDigits_append_toDigits (by decide) (by omega) (Nat.mod_lt n (by decide))]
  congr 1
  omega

/-- The decimal digits of a number are digits, read from the left they make the number, and
the first is not a zero unless the number is. -/
theorem toDigits_spec (n : Nat) :
    (∀ ch ∈ Nat.toDigits 10 n, ch.isDigit) ∧
      (Nat.toDigits 10 n).foldl (fun v ch => v * 10 + digitValue ch) 0 = n ∧
      (0 < n → ∃ d ds, Nat.toDigits 10 n = d :: ds ∧ d ≠ '0') := by
  induction n using Nat.strong_induction_on with
  | _ n ih =>
    rcases Nat.lt_or_ge n 10 with hlt | hge
    · have hzero : ∀ m : Fin 10, 0 < (m : Nat) → (m : Nat).digitChar ≠ '0' := by decide
      rw [Nat.toDigits_of_lt_base hlt]
      refine ⟨by simp [Nat.isDigit_digitChar, hlt], by simp [digitValue_digitChar hlt],
        fun hpos => ⟨_, [], rfl, hzero ⟨n, hlt⟩ hpos⟩⟩
    · obtain ⟨hdigits, hvalue, hhead⟩ := ih (n / 10) (by omega)
      have hmod : n % 10 < 10 := Nat.mod_lt n (by decide)
      rw [toDigits_ten_of_le hge]
      refine ⟨fun ch hch => ?_, ?_, fun _ => ?_⟩
      · rcases List.mem_append.mp hch with h | h
        · exact hdigits ch h
        · rw [List.mem_singleton.mp h]
          simp [Nat.isDigit_digitChar, hmod]
      · rw [List.foldl_append, hvalue]
        simp only [List.foldl_cons, List.foldl_nil, digitValue_digitChar hmod]
        omega
      · obtain ⟨d, ds, hds, hd⟩ := hhead (by omega)
        exact ⟨d, ds ++ [(n % 10).digitChar], by rw [hds, List.cons_append], hd⟩

/-- A fold of digits never goes below where it starts. -/
theorem le_foldl_digits (sig : Nat) (ds : List Char) :
    sig ≤ ds.foldl (fun v ch => v * 10 + digitValue ch) sig := by
  induction ds generalizing sig with
  | nil => exact le_refl sig
  | cons d ds ih => exact le_trans (by omega) (ih (sig * 10 + digitValue d))

/-- Integer digits that fit 64 bits add up to their value. -/
theorem integerDigits_of_digits (exp : Int) :
    ∀ (sig : Nat) (ds : List Char), (∀ ch ∈ ds, ch.isDigit) →
      ds.foldl (fun v ch => v * 10 + digitValue ch) sig ≤ maxSignificand →
      integerDigits sig exp false ds = (ds.foldl (fun v ch => v * 10 + digitValue ch) sig, exp, [])
  | _, [], _, _ => rfl
  | sig, d :: ds, hdigits, hfit => by
      have hd : d.isDigit = true := hdigits d List.mem_cons_self
      have hstep : sig * 10 + digitValue d ≤ maxSignificand :=
        le_trans (le_foldl_digits _ ds) hfit
      simp only [integerDigits, hd, if_true, Bool.false_or, decide_eq_true_eq, gt_iff_lt,
        not_lt.mpr hstep, if_false]
      exact integerDigits_of_digits exp _ ds (fun ch h => hdigits ch (List.mem_cons_of_mem d h)) hfit

/-! ## Values -/

/-- What may follow a value inside an object: a comma or the closing brace, then anything. -/
def FollowsValue (t : List Char) : Prop := ∃ c r, t = c :: r ∧ (c = ',' ∨ c = '}')

/-- After a value inside an object the object goes on: a comma or the closing brace comes
next, after blanks. -/
def GoesOn (t : List Char) : Prop := ∃ c r, skipBlank t = c :: r ∧ (c = ',' ∨ c = '}')

theorem EndsNumber.of_follows {c : Char} (hc : c = ',' ∨ c = '}') : EndsNumber c := by
  unfold EndsNumber
  rcases hc with rfl | rfl <;> decide

theorem skipBlank_of_not_blank {d : Char} (hd : isBlank d = false) (rest : List Char) :
    skipBlank (d :: rest) = d :: rest := by
  simp [skipBlank, hd]

theorem isBlank_of_isDigit {d : Char} (hd : d.isDigit = true) : isBlank d = false := by
  unfold isBlank
  simp only [decide_eq_false_iff_not]
  rintro (rfl | rfl | rfl | rfl) <;> exact absurd hd (by decide)

theorem readValue_digit {d : Char} (hd : d.isDigit = true) (fuel depth : Nat) (rest : List Char) :
    readValue ofParts (fuel + 1) depth (d :: rest) = readNumber ofParts false (d :: rest) := by
  rw [readValue.eq_2]
  simp only [skipBlank, isBlank_of_isDigit hd, Bool.false_eq_true, if_false]
  split <;> simp_all

theorem readValue_minus (fuel depth : Nat) (rest : List Char) :
    readValue ofParts (fuel + 1) depth ('-' :: rest) = readNumber ofParts true rest := by
  simp [readValue.eq_2, skipBlank, isBlank]

/-- A written string reads back as itself, whatever follows it. -/
theorem readValue_quote (fuel depth : Nat) (str : String) (t : List Char) :
    readValue ofParts (fuel + 1) depth ((quote str).toList ++ t) = .ok (.str str, t) := by
  have hbody := readStringBody_escaped [] str.toList t
  simp only [List.reverse_nil, List.nil_append, String.ofList_toList, String.toList_join] at hbody
  simp [readValue.eq_2, quote, skipBlank, isBlank, hbody, bind, Except.bind, pure, Except.pure]

/-- A written boolean reads back as itself, whatever follows it. -/
theorem readValue_bool (fuel depth : Nat) (b : Bool) (t : List Char) :
    readValue ofParts (fuel + 1) depth ((Value.write ft (.bool b)).toList ++ t) = .ok (.bool b, t) := by
  cases b <;> simp [readValue.eq_2, Value.write, skipBlank, isBlank, readWord]

/-- A written integer below `2 ^ 64` reads back as itself before a comma or a closing
brace. -/
theorem readValue_int {n : Nat} (hn : n ≤ maxSignificand) (fuel depth : Nat) {t : List Char}
    (ht : FollowsValue t) :
    readValue ofParts (fuel + 1) depth ((Value.write ft (.int n)).toList ++ t) = .ok (.int n, t) := by
  obtain ⟨c, r, rfl, hc⟩ := ht
  obtain ⟨hdigit, hdot, he, hE, -⟩ := EndsNumber.of_follows hc
  obtain ⟨hdigits, hvalue, hhead⟩ := toDigits_spec n
  have htext : (Value.write ft (.int n)).toList = Nat.toDigits 10 n := by
    show (toString n).toList = _
    rw [Nat.toString_eq_ofList_toDigits, String.toList_ofList]
  -- after the integer digits the number ends: no point and no exponent follow
  have hend : readNumberTail ofParts false n 0 false (c :: r) = .ok (.int n, c :: r) := by
    rw [readNumberTail_cons hdot, if_neg (by simp [he, hE])]
    rfl
  rw [htext]
  rcases Nat.eq_zero_or_pos n with rfl | hpos
  · have hzero : Nat.toDigits 10 0 = ['0'] := by decide
    rw [hzero, List.singleton_append, readValue_digit (by decide)]
    simpa [readNumber, hdigit] using hend
  · obtain ⟨d, ds, hds, hd0⟩ := hhead hpos
    have hd : d.isDigit = true := hdigits d (by simp [hds])
    have hfold : ds.foldl (fun v ch => v * 10 + digitValue ch) (digitValue d) = n := by
      simpa [hds] using hvalue
    have hint : integerDigits (digitValue d) 0 false (ds ++ c :: r) = (n, 0, c :: r) := by
      rw [integerDigits_append hdigit, integerDigits_of_digits 0 _ ds
        (fun ch h => hdigits ch (by simp [hds, h])) (by rw [hfold]; exact hn), hfold]
      rfl
    rw [hds, List.cons_append, readValue_digit hd]
    simpa [readNumber, hd0, hd, hint] using hend

/-! ## Number texts -/

/-- The characters a written number is made of: digits, the point, the exponent mark and the
minus sign. -/
def numberChar (ch : Char) : Bool := ch.isDigit || ch == '.' || ch == 'e' || ch == '-'

/-- A text made of the characters of written numbers only. -/
def NumberText (s : String) : Prop := ∀ ch ∈ s.toList, numberChar ch = true

/-- No character of a written number is a blank, a comma or a closing brace. -/
theorem numberChar_ne {ch : Char} (h : numberChar ch = true) :
    isBlank ch = false ∧ ch ≠ ',' ∧ ch ≠ '}' := by
  refine ⟨?_, ?_, ?_⟩
  · unfold isBlank
    simp only [decide_eq_false_iff_not]
    rintro (rfl | rfl | rfl | rfl) <;> exact absurd h (by decide)
  · rintro rfl
    exact absurd h (by decide)
  · rintro rfl
    exact absurd h (by decide)

@[simp] theorem numberText_append {a b : String} : NumberText (a ++ b) ↔ NumberText a ∧ NumberText b := by
  simp [NumberText, String.toList_append, or_imp, forall_and]

theorem numberText_ofList {l : List Char} : NumberText (String.ofList l) ↔ ∀ ch ∈ l, numberChar ch = true := by
  simp [NumberText]

theorem numberText_nat (n : Nat) : NumberText (toString n) := by
  rw [Nat.toString_eq_ofList_toDigits, numberText_ofList]
  intro ch hch
  simp [numberChar, (toDigits_spec n).1 ch hch]

theorem numberText_int (i : Int) : NumberText (toString i) := by
  cases i with
  | ofNat m => exact numberText_nat m
  | negSucc m =>
      show NumberText ("-" ++ toString (m + 1))
      exact numberText_append.mpr ⟨by simp [NumberText, numberChar], numberText_nat (m + 1)⟩

theorem numberText_zeros (n : Nat) : NumberText (Layout.zeros n) := by
  simp [Layout.zeros, numberText_ofList, List.mem_replicate, numberChar]

/-- The digits of a written number with its point, its exponent mark or its sign. -/
theorem numberText_marks : NumberText "0." ∧ NumberText "." ∧ NumberText ".0" ∧ NumberText "" ∧
    NumberText "e" ∧ NumberText "-" ∧ NumberText "0" := by
  simp [NumberText, numberChar]

theorem numberText_positionalText {ds : String} (hds : NumberText ds) (p : Int) (pointZero : Bool) :
    NumberText (Layout.positionalText ds p pointZero) := by
  obtain ⟨h0p, hp, hp0, hnil, -⟩ := numberText_marks
  unfold Layout.positionalText
  dsimp only
  split
  · simp only [numberText_append]
    exact ⟨⟨h0p, numberText_zeros _⟩, hds⟩
  split
  · simp only [numberText_append, numberText_ofList]
    exact ⟨⟨fun ch h => hds ch (List.mem_of_mem_take h), hp⟩, fun ch h => hds ch (List.mem_of_mem_drop h)⟩
  · simp only [numberText_append]
    exact ⟨⟨hds, numberText_zeros _⟩, by split <;> assumption⟩

theorem numberText_exponentText {ds : String} (hds : NumberText ds) (p : Int) :
    NumberText (Layout.exponentText ds p) := by
  obtain ⟨-, hp, -, hnil, he, -⟩ := numberText_marks
  unfold Layout.exponentText
  dsimp only
  have hhead : NumberText (String.ofList (ds.toList.take 1)) :=
    numberText_ofList.mpr fun ch h => hds ch (List.mem_of_mem_take h)
  have htail : NumberText (String.ofList (ds.toList.drop 1)) :=
    numberText_ofList.mpr fun ch h => hds ch (List.mem_of_mem_drop h)
  simp only [numberText_append]
  refine ⟨⟨⟨hhead, ?_⟩, he⟩, numberText_int _⟩
  split
  · exact hnil
  · exact numberText_append.mpr ⟨hp, htail⟩

theorem numberText_layoutText {ds : String} (hds : NumberText ds) (b : Bool) (p : Int)
    (pointZero : Bool) :
    NumberText (if b = true then Layout.positionalText ds p pointZero else Layout.exponentText ds p) := by
  split
  · exact numberText_positionalText hds p pointZero
  · exact numberText_exponentText hds p

/-- The text of a finite float is made of the characters of written numbers only. -/
theorem numberText_floatText {x : Binary64} (hx : x.isFinite = true) : NumberText (floatText x) := by
  cases x with
  | nan => cases hx
  | inf s => cases hx
  | finite s m e =>
      have hsign : NumberText (if s then "-" else "") := by
        split
        · exact numberText_marks.2.2.2.2.2.1
        · exact numberText_marks.2.2.2.1
      unfold floatText Layout.render
      dsimp only
      split
      · exact numberText_append.mpr ⟨hsign, numberText_positionalText numberText_marks.2.2.2.2.2.2 _ _⟩
      · refine numberText_append.mpr ⟨hsign, ?_⟩
        -- positionally or with an exponent, whatever the range of positional points
        split <;> exact numberText_layoutText (numberText_nat _) _ _ _

theorem toOption_eq_some_iff {ε α : Type} {e : Except ε α} {a : α} : e.toOption = some a ↔ e = .ok a := by
  cases e <;> simp

theorem toOption_eq_none_iff {ε α : Type} {e : Except ε α} : e.toOption = none ↔ ∀ a, e ≠ .ok a := by
  cases e <;> simp

/-- A text of number characters reads inside an object as it reads standing alone, whatever
the fuel and depth, and leaves what follows it. -/
theorem readValue_numberText_append (ofParts : Bool → Nat → Int → Option Binary64) {cs : List Char} (hcs : ∀ ch ∈ cs, numberChar ch = true)
    {c : Char} (hc : c = ',' ∨ c = '}') (r : List Char) (fuel depth fuel' depth' : Nat) :
    (readValue ofParts (fuel + 1) depth (cs ++ c :: r)).toOption =
      (readValue ofParts (fuel' + 1) depth' cs).toOption.map (withRest (c :: r)) := by
  have hends := EndsNumber.of_follows hc
  cases cs with
  | nil => rcases hc with rfl | rfl <;> simp [readValue.eq_2, skipBlank, isBlank]
  | cons h cs =>
      have hh := hcs h List.mem_cons_self
      simp only [numberChar, Bool.or_eq_true, beq_iff_eq] at hh
      rcases hh with ((hd | rfl) | rfl) | rfl
      · rw [List.cons_append, readValue_digit hd, readValue_digit hd, ← List.cons_append]
        exact readNumber_append hends false (h :: cs)
      · simp [readValue.eq_2, skipBlank, isBlank]
      · simp [readValue.eq_2, skipBlank, isBlank]
      · rw [List.cons_append, readValue_minus, readValue_minus]
        exact readNumber_append hends true cs

/-- Reading a text of number characters leaves the end of it. -/
theorem readValue_numberText_leaves (ofParts : Bool → Nat → Int → Option Binary64) {cs : List Char} (hcs : ∀ ch ∈ cs, numberChar ch = true)
    (fuel depth : Nat) : LeavesSuffix cs (readValue ofParts (fuel + 1) depth cs) := by
  intro p hp
  cases cs with
  | nil => simp [readValue.eq_2, skipBlank] at hp
  | cons h cs =>
      have hh := hcs h List.mem_cons_self
      simp only [numberChar, Bool.or_eq_true, beq_iff_eq] at hh
      rcases hh with ((hd | rfl) | rfl) | rfl
      · rw [readValue_digit hd] at hp
        exact readNumber_leaves false _ p hp
      · simp [readValue.eq_2, skipBlank, isBlank] at hp
      · simp [readValue.eq_2, skipBlank, isBlank] at hp
      · rw [readValue_minus] at hp
        exact (readNumber_leaves true cs p hp).trans (List.suffix_cons _ cs)

/-- A whole text reads as a value when its value reads and only blanks follow. -/
theorem readWith_eq_ok_iff (text : String) (v : Value) :
    readWith ofParts text = .ok v ↔ ∃ rest, readValue ofParts (2 * text.toList.length + 2) 0 text.toList = .ok (v, rest) ∧
      skipBlank rest = [] := by
  unfold readWith
  constructor
  · intro h
    rcases hv : readValue ofParts (2 * text.toList.length + 2) 0 text.toList with e | ⟨v', rest⟩ <;>
      simp only [hv, bind, Except.bind] at h
    · cases h
    · -- anything but blanks after the value is refused
      cases hblank : skipBlank rest with
      | nil =>
          simp only [hblank, pure, Except.pure, Except.ok.injEq] at h
          exact ⟨rest, h ▸ rfl, hblank⟩
      | cons c r => simp [hblank, throw, throwThe, MonadExceptOf.throw] at h
  · rintro ⟨rest, hv, hblank⟩
    simp [hv, bind, Except.bind, hblank, pure, Except.pure]

/-! ## Values inside an object -/

/-- How the text of `v` reads inside an object, before a comma or the closing brace: as the
value `o` when there is one, leaving what follows; when there is none, no reading of it lets
the object go on. -/
def ReadsIn (ft : Binary64 → String) (ofParts : Bool → Nat → Int → Option Binary64) (v : Value)
    (o : Option Value) : Prop :=
  ∀ fuel depth t, FollowsValue t →
    (∀ v', o = some v' → readValue ofParts (fuel + 1) depth ((Value.write ft v).toList ++ t) = .ok (v', t)) ∧
      (o = none → ∀ v' r', readValue ofParts (fuel + 1) depth ((Value.write ft v).toList ++ t) = .ok (v', r') →
        ¬GoesOn r')

/-- A value whose text reads back as itself in any context. -/
theorem ReadsIn.of_readValue {v : Value}
    (h : ∀ fuel depth t, FollowsValue t → readValue ofParts (fuel + 1) depth ((Value.write ft v).toList ++ t) = .ok (v, t)) :
    ReadsIn ft ofParts v (some v) :=
  fun fuel depth t ht => ⟨fun v' hv' => by cases hv'; exact h fuel depth t ht, fun h' => by cases h'⟩

theorem readsIn_str (str : String) : ReadsIn ft ofParts (.str str) (some (.str str)) :=
  ReadsIn.of_readValue fun fuel depth t _ => readValue_quote fuel depth str t

theorem readsIn_bool (b : Bool) : ReadsIn ft ofParts (.bool b) (some (.bool b)) :=
  ReadsIn.of_readValue fun fuel depth t _ => readValue_bool fuel depth b t

theorem readsIn_int {n : Nat} (hn : n ≤ maxSignificand) : ReadsIn ft ofParts (.int n) (some (.int n)) :=
  ReadsIn.of_readValue fun fuel depth _ ht => readValue_int hn fuel depth ht

/-- A finite float reads inside an object as its text reads standing alone: the object goes
on after it only when the whole text is one number. -/
theorem readsIn_float {x : Binary64} (hx : NumberText (ft x)) :
    ReadsIn ft ofParts (.float x) (readWith ofParts (ft x)).toOption := by
  intro fuel depth t ht
  obtain ⟨c, r, rfl, hc⟩ := ht
  have hcs : ∀ ch ∈ (ft x).toList, numberChar ch = true := hx
  have hrender : (Value.write ft (.float x)).toList = (ft x).toList := rfl
  -- the alone reading of the text, at the fuel `read` gives it
  have happend := readValue_numberText_append ofParts hcs hc r fuel depth (2 * (ft x).toList.length + 1) 0
  have hleaves := readValue_numberText_leaves ofParts hcs (2 * (ft x).toList.length + 1) 0
  -- what a reading of the text leaves starts with a number character, if anything
  have hstart : ∀ rest, rest <:+ (ft x).toList → rest ≠ [] →
      ∃ h tl, rest = h :: tl ∧ numberChar h = true := by
    intro rest hsuffix hne
    obtain ⟨h, tl, rfl⟩ := List.exists_cons_of_ne_nil hne
    exact ⟨h, tl, rfl, hcs h (hsuffix.subset List.mem_cons_self)⟩
  rw [hrender]
  refine ⟨fun v' hv' => ?_, fun hnone v' r' hv' => ?_⟩
  · obtain ⟨rest, hread, hblank⟩ := (readWith_eq_ok_iff _ _).mp (toOption_eq_some_iff.mp hv')
    have hrest : rest = [] := by
      by_contra hne
      obtain ⟨h, tl, rfl, hh⟩ := hstart rest (hleaves _ hread) hne
      simp [skipBlank, (numberChar_ne hh).1] at hblank
    rw [hread, hrest] at happend
    exact toOption_eq_some_iff.mp happend
  · rw [hv', toOption_ok] at happend
    obtain ⟨⟨v'', rest⟩, hread, hp⟩ := Option.map_eq_some_iff.mp happend.symm
    simp only [withRest, Prod.mk.injEq] at hp
    obtain ⟨rfl, rfl⟩ := hp
    -- standing alone the text is not read whole, so a number character is left over
    have hne : rest ≠ [] := by
      rintro rfl
      exact toOption_eq_none_iff.mp hnone v'' ((readWith_eq_ok_iff _ _).mpr ⟨[], toOption_eq_some_iff.mp hread, rfl⟩)
    obtain ⟨h, tl, rfl, hh⟩ := hstart rest (hleaves _ (toOption_eq_some_iff.mp hread)) hne
    rintro ⟨c', r'', hskip, hc'⟩
    obtain ⟨hblank, hcomma, hbrace⟩ := numberChar_ne hh
    simp only [List.cons_append, skipBlank, hblank, Bool.false_eq_true, if_false, List.cons.injEq] at hskip
    rcases hc' with rfl | rfl
    · exact hcomma hskip.1
    · exact hbrace hskip.1

/-! ## Objects -/

/-- What a field's value reads back as inside an object: a float as its text reads standing
alone, any other value as itself. -/
def Value.rereadIn (ft : Binary64 → String) (ofParts : Bool → Nat → Int → Option Binary64) :
    Value → Option Value
  | .float x => (readWith ofParts (ft x)).toOption
  | v => some v

/-- The fields read back from an object's text, inserted by key in turn; nothing when a
value does not read back. -/
def rereadFields (ft : Binary64 → String) (ofParts : Bool → Nat → Int → Option Binary64)
    (acc : List (String × Value)) (fs : List (String × Value)) : Option (List (String × Value)) :=
  fs.foldlM (fun acc f => (f.2.rereadIn ft ofParts).map fun v => Value.insertField f.1 v acc) acc

/-- A field after the first: a comma, the quoted key, a colon and the value. -/
def fieldText (ft : Binary64 → String) (f : String × Value) : String :=
  "," ++ quote f.1 ++ ":" ++ Value.write ft f.2

theorem writeFields_cons (k : String) (v : Value) (fs : List (String × Value)) :
    Value.writeFields ft ((k, v) :: fs) = quote k ++ ":" ++ Value.write ft v ++ String.join (fs.map (fieldText ft)) := by
  induction fs generalizing k v with
  | nil => simp [Value.writeFields]
  | cons f fs ih =>
      obtain ⟨k', v'⟩ := f
      rw [Value.writeFields, ih]
      · simp [fieldText, String.append_assoc]
      · simp

theorem quote_toList (str : String) :
    (quote str).toList = '"' :: ((String.join (str.toList.map escapeChar)).toList ++ ['"']) := by
  simp [quote, String.toList_append]

/-- After a value that does not let the object go on, the object is not read. -/
theorem readFields_of_not_goesOn {r : List Char} (h : ¬GoesOn r) (fuel depth : Nat)
    (acc : List (String × Value)) : (readFields ofParts fuel depth false acc r).toOption = none := by
  cases fuel with
  | zero => simp [readFields.eq_1]
  | succ fuel =>
      rw [readFields.eq_2]
      split
      · rfl
      · next r' heq => exact absurd ⟨'}', r', heq, .inr rfl⟩ h
      · rfl
      · next r' heq => exact absurd ⟨',', r', heq, .inl rfl⟩ h
      · rfl

/-- One field inside an object: its key reads back, and its value as it reads inside an
object; the object goes on from there. -/
theorem readField_step {k : String} {v : Value} {o : Option Value} (hv : ReadsIn ft ofParts v o)
    (fuel depth : Nat) (acc : List (String × Value)) {t : List Char} (ht : FollowsValue t) :
    (readField ofParts (fuel + 2) depth acc
        ((String.join (k.toList.map escapeChar)).toList ++ '"' :: ':' :: ((Value.write ft v).toList ++ t))).toOption =
      o.bind fun v' => (readFields ofParts (fuel + 1) depth false (Value.insertField k v' acc) t).toOption := by
  have hkey := readStringBody_escaped [] k.toList (':' :: ((Value.write ft v).toList ++ t))
  simp only [List.reverse_nil, List.nil_append, String.ofList_toList] at hkey
  rw [readField.eq_2]
  simp only [hkey, bind, Except.bind, skipBlank_of_not_blank (show isBlank ':' = false by decide)]
  obtain ⟨hsome, hnone⟩ := hv (fuel + 0) depth t ht
  cases o with
  | some v' => simp [hsome v' rfl]
  | none =>
      simp only [Option.bind_none]
      rcases hread : readValue ofParts (fuel + 1) depth ((Value.write ft v).toList ++ t) with e | ⟨v', r'⟩
      · rfl
      · exact readFields_of_not_goesOn (hnone rfl v' r' hread) _ _ _

theorem fieldText_toList_append (ft : Binary64 → String) (f : String × Value) (rest : List Char) :
    (fieldText ft f).toList ++ rest =
      ',' :: '"' :: ((String.join (f.1.toList.map escapeChar)).toList ++ '"' :: ':' ::
        ((Value.write ft f.2).toList ++ rest)) := by
  simp [fieldText, String.toList_append, quote_toList]

theorem length_fieldsText (ft : Binary64 → String) (fs : List (String × Value)) :
    fs.length ≤ (String.join (fs.map (fieldText ft))).toList.length := by
  induction fs with
  | nil => simp
  | cons f fs ih =>
      have hf : (fieldText ft f).toList ≠ [] := by
        have h := fieldText_toList_append ft f []
        rw [List.append_nil] at h
        simp [h]
      simp only [List.map_cons, String.join_cons, String.toList_append, List.length_append,
        List.length_cons]
      have := List.length_pos_of_ne_nil hf
      omega

theorem followsValue_fields (fs : List (String × Value)) (t : List Char) :
    FollowsValue ((String.join (fs.map (fieldText ft))).toList ++ '}' :: t) := by
  cases fs with
  | nil => exact ⟨'}', t, by simp, .inr rfl⟩
  | cons f fs =>
      simp only [List.map_cons, String.join_cons, String.toList_append, fieldText_toList_append,
        List.cons_append]
      exact ⟨',', _, rfl, .inl rfl⟩

theorem rereadFields_cons (acc : List (String × Value)) (f : String × Value) (fs : List (String × Value)) :
    rereadFields ft ofParts acc (f :: fs) =
      (f.2.rereadIn ft ofParts).bind fun v => rereadFields ft ofParts (Value.insertField f.1 v acc) fs := by
  cases h : f.2.rereadIn ft ofParts <;> simp [rereadFields, List.foldlM_cons, h]

/-- The fields after the first read back one by one, then the closing brace ends the
object. -/
theorem readFields_fieldsText (depth : Nat) (t : List Char) :
    ∀ (fs : List (String × Value)), (∀ f ∈ fs, ReadsIn ft ofParts f.2 (f.2.rereadIn ft ofParts)) →
      ∀ (acc : List (String × Value)) (fuel : Nat), 2 * fs.length ≤ fuel →
        (readFields ofParts (fuel + 1) depth false acc ((String.join (fs.map (fieldText ft))).toList ++ '}' :: t)).toOption =
          (rereadFields ft ofParts acc fs).map fun acc' => (.obj acc', t)
  | [], _, acc, fuel, _ => by
      simp [readFields.eq_2, skipBlank, isBlank, rereadFields]
  | f :: fs, hfs, acc, fuel, hfuel => by
      obtain ⟨fuel, rfl⟩ : ∃ g, fuel = g + 2 := ⟨fuel - 2, by simp at hfuel; omega⟩
      have hrest := readFields_fieldsText depth t fs (fun f' h => hfs f' (List.mem_cons_of_mem f h))
      simp only [List.map_cons, String.join_cons, String.toList_append, List.append_assoc,
        fieldText_toList_append, List.cons_append]
      rw [readFields.eq_2, skipBlank_of_not_blank (by decide)]
      simp only [Bool.false_eq_true, if_false, skipBlank_of_not_blank (show isBlank '"' = false by decide)]
      rw [readField_step (hfs f List.mem_cons_self) fuel depth acc (followsValue_fields fs t),
        rereadFields_cons]
      cases f.2.rereadIn ft ofParts with
      | none => rfl
      | some v => exact hrest _ fuel (by simp at hfuel; omega)

/-- A whole text reads as what its value reads as, when the value reading leaves nothing. -/
theorem readWith_toOption {text : String} {o : Option Value}
    (h : (readValue ofParts (2 * text.toList.length + 2) 0 text.toList).toOption = o.map fun v => (v, [])) :
    (readWith ofParts text).toOption = o := by
  cases o with
  | none =>
      refine toOption_eq_none_iff.mpr fun v hv => ?_
      obtain ⟨rest, hread, -⟩ := (readWith_eq_ok_iff _ _).mp hv
      simp [hread] at h
  | some v => exact toOption_eq_some_iff.mpr ((readWith_eq_ok_iff _ _).mpr ⟨[], toOption_eq_some_iff.mp h, rfl⟩)

/-- A written object of scalar fields reads back as its fields read back inside it,
inserted by key. -/
theorem readWith_write_obj (ft : Binary64 → String) (ofParts : Bool → Nat → Int → Option Binary64)
    (k : String) (v : Value) (fs : List (String × Value))
    (hfs : ∀ f ∈ (k, v) :: fs, ReadsIn ft ofParts f.2 (f.2.rereadIn ft ofParts)) :
    (readWith ofParts (Value.write ft (.obj ((k, v) :: fs)))).toOption =
      (rereadFields ft ofParts [] ((k, v) :: fs)).map .obj := by
  apply readWith_toOption
  have htext : (Value.write ft (.obj ((k, v) :: fs))).toList =
      '{' :: '"' :: ((String.join (k.toList.map escapeChar)).toList ++ '"' :: ':' ::
        ((Value.write ft v).toList ++ ((String.join (fs.map (fieldText ft))).toList ++ ['}']))) := by
    simp [Value.write, writeFields_cons, String.toList_append, quote_toList]
  -- the text is longer than its fields, so the fuel of `read` covers two steps per field
  obtain ⟨fuel, hfuel, hlen⟩ : ∃ fuel, 2 * (Value.write ft (.obj ((k, v) :: fs))).toList.length = fuel + 2 ∧
      2 * fs.length ≤ fuel := by
    have := length_fieldsText ft fs
    refine ⟨2 * (Value.write ft (.obj ((k, v) :: fs))).toList.length - 2, ?_, ?_⟩ <;> rw [htext] <;>
      simp only [List.length_cons, List.length_append] <;> omega
  rw [hfuel, htext, readValue.eq_2, skipBlank_of_not_blank (by decide)]
  simp only [show ¬(0 + 1 ≥ depthLimit) by decide, if_false]
  rw [readFields.eq_2, skipBlank_of_not_blank (by decide)]
  simp only [if_true]
  rw [readField_step (hfs (k, v) List.mem_cons_self) fuel 1 [] (followsValue_fields fs []),
    rereadFields_cons]
  cases v.rereadIn ft ofParts with
  | none => rfl
  | some v' =>
      simp only [Option.bind_some]
      rw [readFields_fieldsText 1 [] fs (fun f h => hfs f (List.mem_cons_of_mem _ h)) _ fuel hlen,
        Option.map_map]
      rfl

end Json

end Throttle
