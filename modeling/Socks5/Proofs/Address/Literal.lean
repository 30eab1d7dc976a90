import Mathlib.Data.Nat.Digits.Defs
import Socks5.Address

/-!
The text of an address denotes the address (`Address.parse?_text`). For a dotted quad this is so since
each number is read back; for an IPv6 address since the groups on both sides of `::` are, and `::` stands
for the zeros between them (`longestRun_spec`). A text without a dot is no dotted quad, so the two kinds of
text do not get in each other's way.
-/
namespace Socks5

/-! ## Dotted quads -/

namespace IPv4

theorem octet?_octetText (b : UInt8) : octet? (octetText b) = some b ∧ '.' ∉ octetText b := by
  have h : ∀ n : Fin 256, octet? (octetText (UInt8.ofFin n)) = some (UInt8.ofFin n) ∧
      '.' ∉ octetText (UInt8.ofFin n) := by decide +kernel
  exact h b.toFin

theorem parse?_text (x : IPv4) : parse? x.text = some x := by
  have hsplit : Text.split '.' x.text = x.bytes.map octetText := by
    refine Text.split_join (by simp [bytes]) fun p hp => ?_
    obtain ⟨b, -, rfl⟩ := List.mem_map.1 hp
    exact (octet?_octetText b).2
  rw [parse?, hsplit]
  simp [bytes, List.mapM_cons, octet?_octetText]

theorem parse?_of_not_mem {s : List Char} (h : '.' ∉ s) : parse? s = none := by
  rw [parse?, Text.split_of_not_mem h]
  cases ho : octet? s <;> simp [List.mapM_cons, ho]

end IPv4

namespace IPv6

/-! ## Groups -/

theorem mem_toDigits {n : Nat} {c : Char} (h : c ∈ Nat.toDigits 16 n) :
    ∃ d < 16, c = Nat.digitChar d := by
  induction n using Nat.strongRecOn with
  | ind n ih =>
    rw [Nat.toDigits_eq_if (by omega)] at h
    split at h
    · next hn => exact ⟨n, hn, List.mem_singleton.1 h⟩
    · rcases List.mem_append.1 h with hc | hc
      · exact ih (n / 16) (by omega) hc
      · exact ⟨n % 16, by omega, List.mem_singleton.1 hc⟩

theorem hexValue?_digitChar : ∀ d < 16, Bytes.hexValue? (Nat.digitChar d) = some d := by decide

theorem hexDigits?_concat {s : List Char} {n d : Nat} {c : Char} (hs : hexDigits? s = some n)
    (hc : Bytes.hexValue? c = some d) : hexDigits? (s ++ [c]) = some (16 * n + d) := by
  have hs' : List.foldlM (fun n c => (Bytes.hexValue? c).map (16 * n + ·)) 0 s = some n := hs
  simp [hexDigits?, List.foldlM_append, hs', hc]

theorem hexDigits?_toDigits (n : Nat) : hexDigits? (Nat.toDigits 16 n) = some n := by
  induction n using Nat.strongRecOn with
  | ind n ih =>
    rw [Nat.toDigits_eq_if (by omega)]
    split
    · next hn => simp [hexDigits?, hexValue?_digitChar n hn]
    · have hd := hexDigits?_concat (ih (n / 16) (by omega)) (hexValue?_digitChar (n % 16) (by omega))
      rw [hd, Nat.div_add_mod]

theorem group?_groupText (g : UInt16) : group? (groupText g) = some g := by
  have hne : groupText g ≠ [] := Nat.toDigits_ne_nil
  have hlen : (groupText g).length ≤ 4 := by
    rw [groupText, Nat.length_toDigits_le_iff (by omega) (by omega)]
    exact g.toNat_lt
  rw [group?, if_pos ⟨hne, hlen⟩, groupText, hexDigits?_toDigits, Option.map_some, UInt16.ofNat_toNat]

theorem digitChar_ne_mark : ∀ d < 16, Nat.digitChar d ∉ [':', '.', '%'] := by decide

theorem not_mem_groupText {c : Char} (hc : c ∈ [':', '.', '%']) (g : UInt16) : c ∉ groupText g := by
  intro h
  obtain ⟨d, hd, rfl⟩ := mem_toDigits h
  exact digitChar_ne_mark d hd hc

theorem not_mem_joinGroups {c : Char} (hc : c ∈ ['.', '%']) (gs : List UInt16) : c ∉ joinGroups gs := by
  intro h
  obtain rfl | ⟨p, hp, hcp⟩ := Text.mem_join h
  · exact absurd hc (by decide)
  · obtain ⟨g, -, rfl⟩ := List.mem_map.1 hp
    exact not_mem_groupText (List.mem_cons_of_mem _ hc) g hcp

theorem groupList?_groupTexts (gs : List UInt16) : groupList? (gs.map groupText) = some gs := by
  induction gs with
  | nil => rfl
  | cons g gs ih =>
    cases gs with
    | nil =>
      have hdot : '.' ∉ groupText g := not_mem_groupText (by decide) g
      simp [groupList?, hdot, group?_groupText]
    | cons g' gs =>
      rw [List.map_cons, List.map_cons, groupList?, group?_groupText, ← List.map_cons, ih]
      · rfl
      · simp

theorem split_joinGroups {gs : List UInt16} (h : gs ≠ []) :
    Text.split ':' (joinGroups gs) = gs.map groupText := by
  refine Text.split_join (by simpa using h) fun p hp => ?_
  obtain ⟨g, -, rfl⟩ := List.mem_map.1 hp
  exact not_mem_groupText (by decide) g

theorem joinGroups_eq_nil {gs : List UInt16} : joinGroups gs = [] ↔ gs = [] := by
  refine ⟨fun h => ?_, fun h => by rw [h]; rfl⟩
  by_contra hne
  have hs := split_joinGroups hne
  rw [h] at hs
  obtain ⟨g, gs, rfl⟩ := List.exists_cons_of_ne_nil hne
  rw [Text.split, List.map_cons, List.cons.injEq] at hs
  exact Nat.toDigits_ne_nil hs.1.symm

theorem side?_joinGroups (gs : List UInt16) : side? (joinGroups gs) = some gs := by
  unfold side?
  by_cases h : gs = []
  · rw [if_pos (joinGroups_eq_nil.2 h), h]
  · rw [if_neg (mt joinGroups_eq_nil.1 h), split_joinGroups h, groupList?_groupTexts]

/-! ## The double colon -/

theorem cutDouble_of_ne {c : Char} (h : c ≠ ':') (s : List Char) :
    cutDouble (c :: s) = (cutDouble s).map fun (before, after) => (c :: before, after) := by
  cases s with
  | nil => simp [cutDouble]
  | cons d s => simp [cutDouble, h]

theorem cutDouble_of_second_ne {c : Char} (h : c ≠ ':') (s : List Char) :
    cutDouble (':' :: c :: s) =
      (cutDouble (c :: s)).map fun (before, after) => (':' :: before, after) := by
  rw [cutDouble]
  simpa using h

theorem cutDouble_append {p : List Char} (h : ':' ∉ p) (s : List Char) :
    cutDouble (p ++ s) = (cutDouble s).map fun (before, after) => (p ++ before, after) := by
  induction p with
  | nil => simp
  | cons c p ih =>
    obtain ⟨hc, hp⟩ := List.ne_and_not_mem_of_not_mem_cons h
    rw [List.cons_append, cutDouble_of_ne hc.symm, ih hp, Option.map_map]
    rfl

/-- There is no double colon in groups parted by colons. -/
theorem cutDouble_joinGroups (gs : List UInt16) (s : List Char) :
    cutDouble (joinGroups gs ++ s) =
      (cutDouble s).map fun (before, after) => (joinGroups gs ++ before, after) := by
  induction gs with
  | nil => simp [joinGroups, Text.join]
  | cons g gs ih =>
    have hg : ':' ∉ groupText g := not_mem_groupText (by decide) g
    cases gs with
    | nil => exact cutDouble_append hg s
    | cons g' gs =>
      -- What follows the colon begins with a digit of the next group.
      obtain ⟨c, cs, hcs, hc⟩ : ∃ c cs, joinGroups (g' :: gs) = c :: cs ∧ c ≠ ':' := by
        obtain ⟨c, cs, hcs⟩ := List.exists_cons_of_ne_nil (Nat.toDigits_ne_nil (b := 16) (n := g'.toNat))
        have hc : c ≠ ':' := by
          rintro rfl
          exact not_mem_groupText (c := ':') (by decide) g' (by simp [groupText, hcs])
        cases gs with
        | nil => exact ⟨c, cs, hcs, hc⟩
        | cons g'' gs => exact ⟨c, cs ++ ':' :: joinGroups (g'' :: gs), congrArg (· ++ _) hcs, hc⟩
      have hjoin : joinGroups (g :: g' :: gs) = groupText g ++ ':' :: joinGroups (g' :: gs) := rfl
      rw [hcs] at ih
      rw [hjoin, hcs, List.append_assoc, cutDouble_append hg, List.cons_append, List.cons_append,
        cutDouble_of_second_ne hc, ← List.cons_append, ih, Option.map_map, Option.map_map]
      cases cutDouble s <;> simp

/-! ## The longest run -/

theorem zeroRun_spec (gs : List UInt16) :
    zeroRun gs ≤ gs.length ∧ List.replicate (zeroRun gs) 0 ++ gs.drop (zeroRun gs) = gs := by
  induction gs with
  | nil => exact ⟨Nat.le_refl 0, rfl⟩
  | cons g gs ih =>
    unfold zeroRun
    split
    · next hg => simpa [List.replicate_succ, hg] using ih
    · simp

/-- The longest run lies in the list, and it is all zeros. -/
theorem longestRun_spec (gs : List UInt16) :
    (longestRun gs).1 + (longestRun gs).2 ≤ gs.length ∧
      gs.take (longestRun gs).1 ++ List.replicate (longestRun gs).2 0 ++
        gs.drop ((longestRun gs).1 + (longestRun gs).2) = gs := by
  induction gs with
  | nil => exact ⟨Nat.le_refl 0, rfl⟩
  | cons g gs ih =>
    obtain ⟨hlen, heq⟩ := ih
    have hz := zeroRun_spec (g :: gs)
    simp only [longestRun]
    split
    · simpa using hz
    · refine ⟨by simp; omega, ?_⟩
      have hadd : (longestRun gs).1 + 1 + (longestRun gs).2 =
          (longestRun gs).1 + (longestRun gs).2 + 1 := by omega
      simp only [hadd, List.take_succ_cons, List.drop_succ_cons, List.cons_append, heq]

/-! ## The whole text -/

theorem groups?_groupsText {gs : List UInt16} (h : gs.length = 8) :
    groups? (groupsText gs) = some gs := by
  have hne : gs ≠ [] := by
    rintro rfl
    cases h
  obtain ⟨hlen, heq⟩ := longestRun_spec gs
  unfold groupsText
  generalize longestRun gs = run at hlen heq
  obtain ⟨start, length⟩ := run
  dsimp only at hlen heq ⊢
  split
  · have hcut : cutDouble (joinGroups gs) = none := by
      simpa [cutDouble] using cutDouble_joinGroups gs []
    rw [groups?, hcut]
    simp [split_joinGroups hne, groupList?_groupTexts]
  · next hrun =>
    have hcut := cutDouble_joinGroups (gs.take start) (':' :: ':' :: joinGroups (gs.drop (start + length)))
    have hdot : (joinGroups (gs.take start)).contains '.' = false := by
      simpa using not_mem_joinGroups (c := '.') (by decide) (gs.take start)
    have hfill : 8 - (gs.take start).length - (gs.drop (start + length)).length = length := by
      simp; omega
    have hroom : (gs.take start).length + (gs.drop (start + length)).length ≤ 7 := by
      simp; omega
    rw [cutDouble, Option.map_some] at hcut
    rw [groups?, hcut]
    simp only [List.append_nil, hdot, Bool.false_eq_true, ↓reduceIte, side?_joinGroups,
      Option.bind_eq_bind, Option.bind_some, hroom, hfill, heq]

theorem not_mem_text {c : Char} (hc : c ∈ ['.', '%']) {x : IPv6} (h : x.scope = none) : c ∉ x.text := by
  have hcolon : c ≠ ':' := by
    rintro rfl
    exact absurd hc (by decide)
  simp only [text, h, List.append_nil, groupsText]
  split
  · exact not_mem_joinGroups hc x.groups
  · simp [not_mem_joinGroups hc, hcolon]

theorem parse?_text {x : IPv6} (h : x.scope = none) : parse? x.text = some x := by
  have htext : x.text = groupsText x.groups := by simp [text, h]
  have hcut := Text.cut_of_not_mem (not_mem_text (c := '%') (by decide) h)
  rw [htext] at hcut
  obtain ⟨groups, scope, hlen⟩ := x
  obtain rfl : scope = none := h
  rw [htext, parse?, hcut]
  simp only [groups?_groupsText hlen, Option.bind_eq_bind, Option.bind_some, hlen, ↓reduceDIte]

end IPv6

/-- An address that could come off the wire is the one that its text denotes. -/
theorem Address.parse?_text {a : Address} (h : a.unscoped = a) : parse? a.text.toList = some a := by
  cases a with
  | v4 x => simp [parse?, text, IPv4.parse?_text]
  | v6 x =>
    have hscope : x.scope = none := by
      rw [unscoped, Address.v6.injEq] at h
      rw [← h]
    have hdot : '.' ∉ x.text := IPv6.not_mem_text (by decide) hscope
    simp [parse?, text, IPv4.parse?_of_not_mem hdot, IPv6.parse?_text hscope]

end Socks5
