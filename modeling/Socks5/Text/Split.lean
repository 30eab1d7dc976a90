/-! Texts cut at a mark, and joined again. -/
namespace Socks5.Text

/-- The pieces between the marks; there is one more of them than there are marks. -/
def split (mark : Char) : List Char → List (List Char)
  | [] => [[]]
  | c :: s =>
    if c = mark then [] :: split mark s
    else match split mark s with
      | [] => [[c]]
      | p :: ps => (c :: p) :: ps

def join (mark : Char) : List (List Char) → List Char
  | [] => []
  | [p] => p
  | p :: ps => p ++ mark :: join mark ps

/-- What stands before the first mark, and after it if there is one. -/
def cut (mark : Char) : List Char → List Char × Option (List Char)
  | [] => ([], none)
  | c :: s => if c = mark then ([], some s) else
      let (before, after) := cut mark s
      (c :: before, after)

theorem split_ne_nil (mark : Char) (s : List Char) : split mark s ≠ [] := by
  cases s with
  | nil => simp [split]
  | cons c s => simp only [split]; split; · simp
                split <;> simp

theorem split_of_not_mem {mark : Char} {s : List Char} (h : mark ∉ s) : split mark s = [s] := by
  induction s with
  | nil => rfl
  | cons c s ih =>
    obtain ⟨hc, hs⟩ := List.ne_and_not_mem_of_not_mem_cons h
    simp [split, ih hs, hc.symm]

theorem split_append_mark {mark : Char} {p : List Char} (h : mark ∉ p) (s : List Char) :
    split mark (p ++ mark :: s) = p :: split mark s := by
  induction p with
  | nil => simp [split]
  | cons c p ih =>
    obtain ⟨hc, hp⟩ := List.ne_and_not_mem_of_not_mem_cons h
    simp [split, ih hp, hc.symm]

/-- Pieces without the mark are found again. -/
theorem split_join {mark : Char} {ps : List (List Char)} (hps : ps ≠ []) (h : ∀ p ∈ ps, mark ∉ p) :
    split mark (join mark ps) = ps := by
  induction ps with
  | nil => exact absurd rfl hps
  | cons p ps ih =>
    have hp : mark ∉ p := h p List.mem_cons_self
    cases ps with
    | nil => exact split_of_not_mem hp
    | cons q qs =>
      have hq := ih (List.cons_ne_nil q qs) fun r hr => h r (List.mem_cons_of_mem p hr)
      rw [join, split_append_mark hp, hq]
      simp

theorem mem_join {mark c : Char} {ps : List (List Char)} (h : c ∈ join mark ps) :
    c = mark ∨ ∃ p ∈ ps, c ∈ p := by
  induction ps with
  | nil => simp [join] at h
  | cons p ps ih =>
    cases ps with
    | nil => exact .inr ⟨p, List.mem_cons_self, h⟩
    | cons q qs =>
      rw [join, List.mem_append, List.mem_cons] at h
      rcases h with hp | hm | hq
      · exact .inr ⟨p, List.mem_cons_self, hp⟩
      · exact .inl hm
      · obtain hm | ⟨r, hr, hc⟩ := ih hq
        · exact .inl hm
        · exact .inr ⟨r, List.mem_cons_of_mem p hr, hc⟩
      · simp

theorem cut_of_not_mem {mark : Char} {s : List Char} (h : mark ∉ s) : cut mark s = (s, none) := by
  induction s with
  | nil => rfl
  | cons c s ih =>
    obtain ⟨hc, hs⟩ := List.ne_and_not_mem_of_not_mem_cons h
    simp [cut, ih hs, hc.symm]

end Socks5.Text
