import Mathlib
import Socks5.Number.Literal

/-!
The grammar of integer literals, and that exactly the literals are read, each with what it stands for
(`literal?_eq_some_iff`). A literal stays one of the same number when the case of its letters changes
(`SpellsInteger.congr`).
-/
namespace Socks5

/-! ## Blanks around a text -/

namespace Text

variable {p : Char → Bool} {before body after : List Char}

theorem exists_eq_trimBy (p : Char → Bool) (s : List Char) :
    ∃ before after, s = before ++ trimBy p s ++ after ∧ (∀ c ∈ before, p c = true) ∧ ∀ c ∈ after, p c = true := by
  refine ⟨s.takeWhile p, ((s.dropWhile p).reverse.takeWhile p).reverse, ?_, fun c hc => ?_, fun c hc => ?_⟩
  · rw [trimBy, List.append_assoc, ← List.reverse_append, List.takeWhile_append_dropWhile, List.reverse_reverse,
      List.takeWhile_append_dropWhile]
  · exact List.mem_takeWhile_imp hc
  · exact List.mem_takeWhile_imp (List.mem_reverse.1 hc)

theorem dropWhile_of_forall_not {s : List Char} (h : ∀ c ∈ s, p c = false) (hs : s ≠ []) (rest : List Char) :
    (s ++ rest).dropWhile p = s ++ rest := by
  cases s with
  | nil => exact absurd rfl hs
  | cons c s =>
    have hc : p c = false := h c List.mem_cons_self
    rw [List.cons_append, List.dropWhile_cons_of_neg (by simp [hc])]

theorem trimBy_append (hb : ∀ c ∈ before, p c = true) (ha : ∀ c ∈ after, p c = true)
    (h : ∀ c ∈ body, p c = false) (hne : body ≠ []) : trimBy p (before ++ body ++ after) = body := by
  have hback : (after.reverse ++ body.reverse).dropWhile p = body.reverse := by
    rw [List.dropWhile_append_of_pos fun c hc => ha c (List.mem_reverse.1 hc)]
    have hd := dropWhile_of_forall_not (s := body.reverse) (fun c hc => h c (List.mem_reverse.1 hc)) (by simpa) []
    rwa [List.append_nil] at hd
  rw [trimBy, List.append_assoc, List.dropWhile_append_of_pos hb, dropWhile_of_forall_not h hne, List.reverse_append,
    hback, List.reverse_reverse]

end Text

namespace Number

variable {base : Nat} {c m : Char} {d n : Nat} {s t : List Char} {ds : List Nat} {z : Int}

/-! ## Letters in any case -/

theorem toNat_lt_of_le {c e : Char} (h : c ≤ e) (he : e.toNat < 128) : c.toNat < 128 :=
  Nat.lt_of_le_of_lt (UInt32.le_iff_toNat_le.1 h) he

theorem toLower_of_not_isAlpha {c : Char} (h : c.isAlpha = false) : c.toLower = c := by
  rw [Char.isAlpha, Bool.or_eq_false_iff] at h
  exact Char.toLower_eq_of_not_isUpper (by simp [h.1])

/-- What is no letter has no other case. -/
theorem eq_of_toLower_eq {c e : Char} (hc : c.isAlpha = false) (h : c.toLower = e.toLower) : e = c := by
  have he : e.isAlpha = false := by
    rw [← Char.isAlpha_toLower_eq_isAlpha, ← h, Char.isAlpha_toLower_eq_isAlpha, hc]
  rw [← toLower_of_not_isAlpha he, ← h, toLower_of_not_isAlpha hc]

theorem isAlpha_of_isAsciiBlank {c : Char} (h : Bytes.isAsciiBlank c = true) : c.isAlpha = false := by
  by_contra ha
  have h65 : 65 ≤ c.toNat := by
    simp only [Char.isAlpha, Char.isUpper, Char.isLower, Bool.not_eq_false, Bool.or_eq_true, Bool.and_eq_true,
      decide_eq_true_eq, ge_iff_le, UInt32.le_iff_toNat_le] at ha
    change 65 ≤ c.toNat ∧ _ ∨ 97 ≤ c.toNat ∧ _ at ha
    omega
  rw [Bytes.isAsciiBlank, Bool.or_eq_true, decide_eq_true_eq, Bool.and_eq_true, decide_eq_true_eq,
    decide_eq_true_eq] at h
  rcases h with rfl | h
  · exact absurd h65 (by decide)
  · omega

theorem not_blank_of_toLower {c e : Char} (he : Bytes.isAsciiBlank e = false) (h : c.toLower = e) :
    Bytes.isAsciiBlank c = false := by
  by_contra hc
  rw [Bool.not_eq_false] at hc
  rw [← h, toLower_of_not_isAlpha (isAlpha_of_isAsciiBlank hc), hc] at he
  cases he

theorem toNat_toLower_lt_iff : c.toLower.toNat < 128 ↔ c.toNat < 128 := by
  by_cases hc : c.isUpper = true
  · have hlow : c.toLower.isLower = true := by rw [Char.isLower_toLower_eq_isAlpha, Char.isAlpha, hc, Bool.true_or]
    have hz : c ≤ 'Z' := (of_decide_eq_true hc).2
    have hz' : c.toLower ≤ 'z' := (Bool.and_eq_true_iff.1 hlow).2 |> of_decide_eq_true
    exact iff_of_true (toNat_lt_of_le hz' (by decide)) (toNat_lt_of_le hz (by decide))
  · rw [Char.toLower_eq_of_not_isUpper hc]

/-! ## Digits -/

/-- A decimal digit or a letter in any case, as a digit of a base. -/
def Digit (base : Nat) (c : Char) (d : Nat) : Prop := d < base ∧ c.toLower = Nat.digitChar d

theorem digitChar_spec : ∀ d < 16, Nat.digitChar d ∉ ['_', '+', '-'] ∧
    Bytes.isAsciiBlank (Nat.digitChar d) = false ∧ (Nat.digitChar d).toNat < 128 := by decide

theorem digitIn?_ascii : ∀ n < 128, ∀ d < 16,
    digitIn? 16 (Char.ofNat n) = some d ↔ (Char.ofNat n).toLower = Nat.digitChar d := by decide +kernel

theorem digitIn?_of_le (hb : base ≤ 16) : digitIn? base c = some d ↔ d < base ∧ digitIn? 16 c = some d := by
  unfold digitIn?
  grind

theorem toNat_lt_of_digitIn? (h : digitIn? base c = some d) : c.toNat < 128 := by
  unfold digitIn? at h
  by_cases h9 : '0' ≤ c ∧ c ≤ '9'
  · exact toNat_lt_of_le h9.2 (by decide)
  by_cases hz : 'a' ≤ c ∧ c ≤ 'z'
  · exact toNat_lt_of_le hz.2 (by decide)
  by_cases hZ : 'A' ≤ c ∧ c ≤ 'Z'
  · exact toNat_lt_of_le hZ.2 (by decide)
  · simp [h9, hz, hZ] at h

theorem digitIn?_eq_some_iff (hb : base ≤ 16) : digitIn? base c = some d ↔ Digit base c d := by
  rw [digitIn?_of_le hb, Digit]
  refine and_congr_right fun hd => ?_
  by_cases hc : c.toNat < 128
  · have h := digitIn?_ascii c.toNat hc d (by omega)
    rwa [Char.ofNat_toNat] at h
  · refine iff_of_false (fun h => hc (toNat_lt_of_digitIn? h)) fun h => hc (toNat_toLower_lt_iff.1 ?_)
    rw [h]
    exact (digitChar_spec d (by omega)).2.2

theorem Digit.not_mem (hb : base ≤ 16) (h : Digit base c d) : c ∉ ['_', '+', '-'] := by
  intro hc
  have hsigns : ∀ e ∈ ['_', '+', '-'], e.isAlpha = false := by simp
  have hdigit := h.2
  rw [toLower_of_not_isAlpha (hsigns c hc)] at hdigit
  exact (digitChar_spec d (by have := h.1; omega)).1 (hdigit ▸ hc)

theorem Digit.ne_underscore (hb : base ≤ 16) (h : Digit base c d) : c ≠ '_' := fun hc => h.not_mem hb (by simp [hc])

/-- A decimal digit is no letter. -/
theorem Digit.not_isAlpha (h : Digit 10 c d) : c.isAlpha = false := by
  have hall : ∀ d < 10, (Nat.digitChar d).isAlpha = false := by decide
  rw [← Char.isAlpha_toLower_eq_isAlpha, h.2, hall d h.1]

theorem Digit.congr {e : Char} (h : Digit base c d) (he : c.toLower = e.toLower) : Digit base e d :=
  ⟨h.1, he ▸ h.2⟩

/-! ## Digits in groups -/

/-- Digits of a base, and between two of them one underscore at most. -/
inductive Grouped (base : Nat) : List Char → List Nat → Prop
  | last {c : Char} {d : Nat} : Digit base c d → Grouped base [c] [d]
  | next {c : Char} {d : Nat} {s : List Char} {ds : List Nat} :
      Digit base c d → Grouped base s ds → Grouped base (c :: s) (d :: ds)
  | apart {c : Char} {d : Nat} {s : List Char} {ds : List Nat} :
      Digit base c d → Grouped base s ds → Grouped base (c :: '_' :: s) (d :: ds)

theorem Grouped.head (h : Grouped base s ds) : ∃ c d s' ds', s = c :: s' ∧ ds = d :: ds' ∧ Digit base c d := by
  cases h with
  | last hc => exact ⟨_, _, _, _, rfl, rfl, hc⟩
  | next hc _ => exact ⟨_, _, _, _, rfl, rfl, hc⟩
  | apart hc _ => exact ⟨_, _, _, _, rfl, rfl, hc⟩

theorem grouped_of_grouped? (hb : base ≤ 16) (h : grouped? base s = some ds) : Grouped base s ds := by
  fun_induction grouped? base s generalizing ds with
  | case1 => cases h
  | case2 c =>
    obtain ⟨d, hd, rfl⟩ := Option.map_eq_some_iff.1 h
    exact .last ((digitIn?_eq_some_iff hb).1 hd)
  | case3 c e s ih1 ih2 =>
    obtain ⟨d, hd, h⟩ := Option.bind_eq_some_iff.1 h
    replace hd := (digitIn?_eq_some_iff hb).1 hd
    dsimp only at h
    split at h
    · next he =>
      obtain ⟨rest, hr, h⟩ := Option.bind_eq_some_iff.1 h
      cases h
      exact he ▸ .apart hd (ih1 hr)
    · obtain ⟨rest, hr, h⟩ := Option.bind_eq_some_iff.1 h
      cases h
      exact .next hd (ih2 hr)

theorem Grouped.grouped? (hb : base ≤ 16) (h : Grouped base s ds) : grouped? base s = some ds := by
  induction h with
  | last hc => simp [Number.grouped?, (digitIn?_eq_some_iff hb).2 hc]
  | next hc hs ih =>
    obtain ⟨e, d, s, ds, rfl, rfl, he⟩ := hs.head
    simp [Number.grouped?, (digitIn?_eq_some_iff hb).2 hc, he.ne_underscore hb, ih]
  | apart hc _ ih => simp [Number.grouped?, (digitIn?_eq_some_iff hb).2 hc, ih]

theorem grouped?_eq_some_iff (hb : base ≤ 16) : grouped? base s = some ds ↔ Grouped base s ds :=
  ⟨grouped_of_grouped? hb, fun h => h.grouped? hb⟩

theorem Grouped.congr (h : Grouped base s ds) (ht : s.map Char.toLower = t.map Char.toLower) : Grouped base t ds := by
  induction h generalizing t with
  | last hc =>
    obtain ⟨e, t, rfl, he, ht⟩ := List.map_eq_cons_iff.1 ht.symm
    obtain rfl := List.map_eq_nil_iff.1 ht
    exact .last (hc.congr he.symm)
  | next hc _ ih =>
    obtain ⟨e, t, rfl, he, ht⟩ := List.map_eq_cons_iff.1 ht.symm
    exact .next (hc.congr he.symm) (ih ht.symm)
  | apart hc _ ih =>
    obtain ⟨e, t, rfl, he, ht⟩ := List.map_eq_cons_iff.1 ht.symm
    obtain ⟨u, t, rfl, hu, hs⟩ := List.map_eq_cons_iff.1 ht
    obtain rfl := eq_of_toLower_eq (by decide) hu.symm
    exact .apart (hc.congr he.symm) (ih hs.symm)

theorem Grouped.not_blank (hb : base ≤ 16) (h : Grouped base s ds) : ∀ c ∈ s, Bytes.isAsciiBlank c = false := by
  have hdigit {c : Char} {d : Nat} (hc : Digit base c d) : Bytes.isAsciiBlank c = false :=
    not_blank_of_toLower (digitChar_spec d (by have := hc.1; omega)).2.1 hc.2
  induction h with
  | last hc => simpa using hdigit hc
  | next hc _ ih => exact List.forall_mem_cons.2 ⟨hdigit hc, ih⟩
  | apart hc _ ih => exact List.forall_mem_cons.2 ⟨hdigit hc, List.forall_mem_cons.2 ⟨by decide, ih⟩⟩

/-- The digits from the left on, as the number that they stand for. -/
theorem ofDigits_eq (base : Nat) (ds : List Nat) : ofDigits base ds = Nat.ofDigits base ds.reverse := by
  induction ds using List.reverseRecOn with
  | nil => rfl
  | append_singleton ds d ih =>
    have hlast : ofDigits base (ds ++ [d]) = base * ofDigits base ds + d := List.foldl_concat ..
    rw [hlast, ih, List.reverse_concat, Nat.ofDigits_cons, Nat.add_comm]

/-! ## Numerals and literals -/

/-- The letters that mark a base. -/
def marks : List (Char × Nat) := [('b', 2), ('o', 8), ('x', 16)]

theorem le_of_mem_marks (h : (m, base) ∈ marks) : base ≤ 16 := by
  have hall : ∀ e ∈ marks, e.2 ≤ 16 := by decide
  exact hall _ h

theorem eq_of_mem_marks {base' : Nat} (h : (m, base) ∈ marks) (h' : (m, base') ∈ marks) : base = base' := by
  have hall : ∀ e ∈ marks, ∀ f ∈ marks, e.1 = f.1 → e.2 = f.2 := by decide
  exact hall _ h _ h' rfl

/-- A numeral without a sign, and what it stands for: behind a zero and the mark of a base, where there may be an
underscore more, or in decimals, of which only zero begins with a zero. -/
inductive Unsigned : List Char → Nat → Prop
  | marked {m : Char} {base : Nat} {s t : List Char} {ds : List Nat} : (m.toLower, base) ∈ marks →
      t = s ∨ t = '_' :: s → Grouped base s ds → Unsigned ('0' :: m :: t) (Nat.ofDigits base ds.reverse)
  | decimal {s : List Char} {ds : List Nat} : Grouped 10 s ds → ds.length ≤ 4300 →
      (ds.head? = some 0 → ∀ d ∈ ds, d = 0) → Unsigned s (Nat.ofDigits 10 ds.reverse)

/-- A numeral with or without a sign. -/
inductive Literal : List Char → Int → Prop
  | unsigned {s : List Char} {n : Nat} : Unsigned s n → Literal s n
  | plus {s : List Char} {n : Nat} : Unsigned s n → Literal ('+' :: s) n
  | minus {s : List Char} {n : Nat} : Unsigned s n → Literal ('-' :: s) (-n)

/-- A literal with blanks around it. -/
def SpellsInteger (s : List Char) (z : Int) : Prop :=
  ∃ before body after, s = before ++ body ++ after ∧
    (∀ c ∈ before, Bytes.isAsciiBlank c = true) ∧ (∀ c ∈ after, Bytes.isAsciiBlank c = true) ∧ Literal body z

/-! ## Reading -/

theorem prefixed?_eq_some_iff (hb : base ≤ 16) :
    prefixed? base t = some n ↔
      ∃ s ds, (t = s ∨ t = '_' :: s) ∧ Grouped base s ds ∧ n = Nat.ofDigits base ds.reverse := by
  have hgroup (s : List Char) : (grouped? base s).map (ofDigits base) = some n ↔
      ∃ ds, Grouped base s ds ∧ n = Nat.ofDigits base ds.reverse := by
    simp only [Option.map_eq_some_iff, grouped?_eq_some_iff hb, ofDigits_eq, @eq_comm _ n]
  unfold prefixed?
  split
  · next r =>
    rw [hgroup]
    constructor
    · rintro ⟨ds, hds, hn⟩
      exact ⟨r, ds, .inr rfl, hds, hn⟩
    · rintro ⟨s, ds, rfl | he, hds, hn⟩
      · obtain ⟨c, d, s', ds', he, -, hc⟩ := hds.head
        cases he
        exact absurd rfl (hc.ne_underscore hb)
      · cases he
        exact ⟨ds, hds, hn⟩
  · next hne =>
    rw [hgroup]
    constructor
    · rintro ⟨ds, hds, hn⟩
      exact ⟨t, ds, .inl rfl, hds, hn⟩
    · rintro ⟨s, ds, rfl | rfl, hds, hn⟩
      · exact ⟨ds, hds, hn⟩
      · exact absurd rfl (hne s)

/-- Digits stand for zero exactly if all of them are zero. -/
theorem ofDigits_eq_zero_iff : ofDigits 10 ds = 0 ↔ ∀ d ∈ ds, d = 0 := by
  rw [ofDigits_eq]
  constructor
  · intro h d hd
    exact Nat.digits_zero_of_eq_zero (by omega) h d (List.mem_reverse.2 hd)
  · intro h
    rw [List.eq_replicate_of_mem fun d hd => h d (List.mem_reverse.1 hd), Nat.ofDigits_replicate_zero]

theorem decimal?_eq_some_iff :
    decimal? false s = some n ↔ ∃ ds, Grouped 10 s ds ∧ ds.length ≤ 4300 ∧
      (ds.head? = some 0 → ∀ d ∈ ds, d = 0) ∧ n = Nat.ofDigits 10 ds.reverse := by
  have hnumber (ds : List Nat) : (ds.length ≤ maxDigits ∧
      (false = true ∨ ofDigits 10 ds = 0 ∨ ds.head? ≠ some 0)) ↔
      ds.length ≤ 4300 ∧ (ds.head? = some 0 → ∀ d ∈ ds, d = 0) := by
    rw [ofDigits_eq_zero_iff, maxDigits]
    tauto
  refine Option.bind_eq_some_iff.trans ?_
  refine exists_congr fun ds => ?_
  rw [grouped?_eq_some_iff (by omega)]
  refine and_congr_right fun _ => ?_
  dsimp only
  rw [if_congr (hnumber ds) rfl rfl]
  split
  · next h =>
    constructor
    · intro he
      exact ⟨h.1, h.2, by rw [← Option.some.inj he, ofDigits_eq]⟩
    · rintro ⟨-, -, rfl⟩
      rw [ofDigits_eq]
  · next h => exact iff_of_false nofun fun h' => h ⟨h'.1, h'.2.1⟩

theorem eq_or_eq_toUpper {c e : Char} (h : c.toLower = e) : c = e ∨ c = e.toUpper := by
  by_cases hc : c.isUpper = true
  · right
    rw [← h, Char.toUpper_toLower_eq_toUpper, Char.toUpper_eq_of_not_isLower (Char.not_isLower_of_isUpper hc)]
  · left
    rw [← h, Char.toLower_eq_of_not_isUpper hc]

/-- Behind the mark of a base stands a numeral of that base. -/
theorem unsigned?_of_mem_marks (h : (m.toLower, base) ∈ marks) (t : List Char) :
    unsigned? ('0' :: m :: t) = prefixed? base t := by
  simp only [marks, List.mem_cons, Prod.mk.injEq, List.not_mem_nil, or_false] at h
  rcases h with ⟨hm, rfl⟩ | ⟨hm, rfl⟩ | ⟨hm, rfl⟩
  · rcases eq_or_eq_toUpper hm with rfl | rfl <;> rfl
  · rcases eq_or_eq_toUpper hm with rfl | rfl <;> rfl
  · rcases eq_or_eq_toUpper hm with rfl | rfl <;> rfl

/-- The text of a numeral begins with a zero and the mark of a base. -/
def Marked (s : List Char) : Prop := ∃ m t base, s = '0' :: m :: t ∧ (m.toLower, base) ∈ marks

theorem unsigned?_of_not_marked (h : ¬ Marked s) : unsigned? s = decimal? false s := by
  unfold unsigned?
  split
  · next m t =>
    have hm (base : Nat) (hmem : (m.toLower, base) ∈ marks) : False := h ⟨m, t, base, rfl, hmem⟩
    rw [if_neg, if_neg, if_neg]
    · rintro (rfl | rfl) <;> exact hm 2 (by decide)
    · rintro (rfl | rfl) <;> exact hm 8 (by decide)
    · rintro (rfl | rfl) <;> exact hm 16 (by decide)
  · rfl

theorem Grouped.not_marked (h : Grouped 10 s ds) : ¬ Marked s := by
  rintro ⟨m, t, base, rfl, hm⟩
  have hmark : ∀ d < 10, ∀ e ∈ marks, Nat.digitChar d ≠ e.1 := by decide
  cases h with
  | next _ hs =>
    obtain ⟨c, d, s', ds', he, -, hc⟩ := hs.head
    cases he
    exact hmark d hc.1 _ hm hc.2.symm
  | apart _ _ =>
    have hunder : ∀ e ∈ marks, '_'.toLower ≠ e.1 := by decide
    exact hunder _ hm rfl

theorem unsigned?_eq_some_iff : unsigned? s = some n ↔ Unsigned s n := by
  by_cases hs : Marked s
  · obtain ⟨m, t, base, rfl, hm⟩ := hs
    rw [unsigned?_of_mem_marks hm, prefixed?_eq_some_iff (le_of_mem_marks hm)]
    constructor
    · rintro ⟨s, ds, ht, hds, rfl⟩
      exact .marked hm ht hds
    · intro h
      cases h with
      | marked hm' ht hds =>
        obtain rfl := eq_of_mem_marks hm hm'
        exact ⟨_, _, ht, hds, rfl⟩
      | decimal hds _ _ => exact absurd ⟨m, t, base, rfl, hm⟩ hds.not_marked
  · rw [unsigned?_of_not_marked hs, decimal?_eq_some_iff]
    constructor
    · rintro ⟨ds, hds, hlen, hzero, rfl⟩
      exact .decimal hds hlen hzero
    · intro h
      cases h with
      | marked hm _ _ => exact absurd ⟨_, _, _, rfl, hm⟩ hs
      | decimal hds hlen hzero => exact ⟨_, hds, hlen, hzero, rfl⟩

theorem Unsigned.head (h : Unsigned s n) : ∃ c d r, s = c :: r ∧ Digit 10 c d := by
  cases h with
  | marked _ _ _ => exact ⟨'0', 0, _, rfl, by decide, by decide⟩
  | decimal hds _ _ =>
    obtain ⟨c, d, r, ds', rfl, -, hc⟩ := hds.head
    exact ⟨c, d, r, rfl, hc⟩

theorem signed?_eq_some_iff : signed? unsigned? s = some z ↔ Literal s z := by
  constructor
  · intro h
    unfold signed? at h
    split at h <;> obtain ⟨n, hn, rfl⟩ := Option.map_eq_some_iff.1 h
    · exact .plus (unsigned?_eq_some_iff.1 hn)
    · exact .minus (unsigned?_eq_some_iff.1 hn)
    · exact .unsigned (unsigned?_eq_some_iff.1 hn)
  · intro h
    cases h with
    | unsigned hu =>
      obtain ⟨c, d, r, rfl, hc⟩ := hu.head
      have hsign := hc.not_mem (by omega)
      have hplus : c ≠ '+' := fun he => hsign (by simp [he])
      have hminus : c ≠ '-' := fun he => hsign (by simp [he])
      simp [signed?, hplus, hminus, unsigned?_eq_some_iff.2 hu]
    | plus hu => simp [signed?, unsigned?_eq_some_iff.2 hu]
    | minus hu => simp [signed?, unsigned?_eq_some_iff.2 hu]

/-! ## Literals among blanks -/

theorem Unsigned.not_blank (h : Unsigned s n) : ∀ c ∈ s, Bytes.isAsciiBlank c = false := by
  cases h with
  | marked hm ht hds =>
    have hdigits := hds.not_blank (le_of_mem_marks hm)
    have hmarks : ∀ e ∈ marks, Bytes.isAsciiBlank e.1 = false := by decide
    refine List.forall_mem_cons.2 ⟨by decide, List.forall_mem_cons.2 ⟨not_blank_of_toLower (hmarks _ hm) rfl, ?_⟩⟩
    rcases ht with rfl | rfl
    · exact hdigits
    · exact List.forall_mem_cons.2 ⟨by decide, hdigits⟩
  | decimal hds _ _ => exact hds.not_blank (by omega)

theorem Literal.not_blank (h : Literal s z) : ∀ c ∈ s, Bytes.isAsciiBlank c = false := by
  cases h with
  | unsigned hu => exact hu.not_blank
  | plus hu => exact List.forall_mem_cons.2 ⟨by decide, hu.not_blank⟩
  | minus hu => exact List.forall_mem_cons.2 ⟨by decide, hu.not_blank⟩

/-- A literal begins with a sign or a digit. -/
theorem Literal.head (h : Literal s z) : ∃ c r, s = c :: r ∧ c.isAlpha = false := by
  cases h with
  | unsigned hu =>
    obtain ⟨c, d, r, rfl, hc⟩ := hu.head
    exact ⟨c, r, rfl, hc.not_isAlpha⟩
  | plus _ => exact ⟨_, _, rfl, by decide⟩
  | minus _ => exact ⟨_, _, rfl, by decide⟩

theorem Literal.ne_nil (h : Literal s z) : s ≠ [] := by
  obtain ⟨c, r, rfl, -⟩ := h.head
  exact List.cons_ne_nil c r

theorem SpellsInteger.head (h : SpellsInteger s z) : ∃ c r, s = c :: r ∧ c.isAlpha = false := by
  obtain ⟨before, body, after, rfl, hb, -, hl⟩ := h
  cases before with
  | nil =>
    obtain ⟨c, r, rfl, hc⟩ := hl.head
    exact ⟨c, r ++ after, rfl, hc⟩
  | cons c before => exact ⟨c, _, rfl, isAlpha_of_isAsciiBlank (hb c List.mem_cons_self)⟩

theorem plain_of_lt (h : c.toNat < 128) : plain c = c := if_pos h

/-- Of the texts in ASCII exactly those are read that spell an integer, and as this integer. -/
theorem literal?_eq_some_iff (hs : ∀ c ∈ s, c.toNat < 128) : literal? s = some z ↔ SpellsInteger s z := by
  have hplain : s.map plain = s := (List.map_congr_left fun c hc => plain_of_lt (hs c hc)).trans (List.map_id s)
  rw [literal?, numeral, hplain, signed?_eq_some_iff]
  constructor
  · intro h
    obtain ⟨before, after, he, hb, ha⟩ := Text.exists_eq_trimBy Bytes.isAsciiBlank s
    exact ⟨before, _, after, he, hb, ha, h⟩
  · rintro ⟨before, body, after, rfl, hb, ha, h⟩
    rwa [Text.trimBy_append hb ha h.not_blank h.ne_nil]

/-! ## Literals in any case -/

theorem Unsigned.congr (h : Unsigned s n) (ht : s.map Char.toLower = t.map Char.toLower) : Unsigned t n := by
  cases h with
  | marked hm hu hds =>
    obtain ⟨z, tail, rfl, hz, htail⟩ := List.map_eq_cons_iff.1 ht.symm
    obtain ⟨m', rest, rfl, hm', hrest⟩ := List.map_eq_cons_iff.1 htail
    obtain rfl := eq_of_toLower_eq (by decide) hz.symm
    rw [← hm'] at hm
    rcases hu with rfl | rfl
    · exact .marked hm (.inl rfl) (hds.congr hrest.symm)
    · obtain ⟨u, digits, rfl, hu, hs⟩ := List.map_eq_cons_iff.1 hrest
      obtain rfl := eq_of_toLower_eq (by decide) hu.symm
      exact .marked hm (.inr rfl) (hds.congr hs.symm)
  | decimal hds hlen hzero => exact .decimal (hds.congr ht) hlen hzero

theorem Literal.congr (h : Literal s z) (ht : s.map Char.toLower = t.map Char.toLower) : Literal t z := by
  cases h with
  | unsigned hu => exact .unsigned (hu.congr ht)
  | plus hu =>
    obtain ⟨e, t, rfl, he, hs⟩ := List.map_eq_cons_iff.1 ht.symm
    obtain rfl := eq_of_toLower_eq (by decide) he.symm
    exact .plus (hu.congr hs.symm)
  | minus hu =>
    obtain ⟨e, t, rfl, he, hs⟩ := List.map_eq_cons_iff.1 ht.symm
    obtain rfl := eq_of_toLower_eq (by decide) he.symm
    exact .minus (hu.congr hs.symm)

theorem blanks_congr (h : ∀ c ∈ s, Bytes.isAsciiBlank c = true) (ht : s.map Char.toLower = t.map Char.toLower) :
    s = t := by
  induction s generalizing t with
  | nil => exact (List.map_eq_nil_iff.1 ht.symm).symm
  | cons c s ih =>
    obtain ⟨hc, hs⟩ := List.forall_mem_cons.1 h
    obtain ⟨e, t, rfl, he, ht⟩ := List.map_eq_cons_iff.1 ht.symm
    rw [eq_of_toLower_eq (isAlpha_of_isAsciiBlank hc) he.symm, ih hs ht.symm]

theorem SpellsInteger.congr (h : SpellsInteger s z) (ht : s.map Char.toLower = t.map Char.toLower) :
    SpellsInteger t z := by
  obtain ⟨before, body, after, rfl, hb, ha, hl⟩ := h
  rw [List.map_append, List.map_append] at ht
  obtain ⟨front, after', rfl, hfront, hafter⟩ := List.map_eq_append_iff.1 ht.symm
  obtain ⟨before', body', rfl, hbefore, hbody⟩ := List.map_eq_append_iff.1 hfront
  obtain rfl := blanks_congr hb hbefore.symm
  obtain rfl := blanks_congr ha hafter.symm
  exact ⟨before, body', after, rfl, hb, ha, hl.congr hbody.symm⟩

end Number
end Socks5
