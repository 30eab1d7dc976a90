/-! Who is connected, by label. A label stands once; when it is entered again the newcomer takes the
place, and when anyone of that label leaves the place is empty. -/
namespace Socks5

abbrev Registry := List (String × Nat)

namespace Registry

def enter (label : String) (id : Nat) : Registry → Registry
  | [] => [(label, id)]
  | (l, i) :: rest => if l = label then (label, id) :: rest else (l, i) :: enter label id rest

def leave (label : String) (r : Registry) : Registry := r.filter (·.1 ≠ label)

@[simp] theorem mem_leave {label : String} {r : Registry} {e : String × Nat} :
    e ∈ r.leave label ↔ e ∈ r ∧ e.1 ≠ label := by simp [leave]

theorem mem_enter_self (label : String) (id : Nat) (r : Registry) : (label, id) ∈ r.enter label id := by
  induction r with
  | nil => simp [enter]
  | cons e r ih => simp only [enter]; split <;> simp_all

theorem mem_of_mem_enter {label : String} {id : Nat} {r : Registry} {e : String × Nat}
    (h : e ∈ r.enter label id) : e = (label, id) ∨ e ∈ r := by
  induction r with
  | nil => simp_all [enter]
  | cons a r ih =>
    simp only [enter] at h
    split at h <;> simp only [List.mem_cons] at h ⊢ <;> rcases h with h | h
    · exact .inl h
    · exact .inr (.inr h)
    · exact .inr (.inl h)
    · exact (ih h).imp_right .inr

/-- Entering adds one place at most. -/
theorem length_enter_le (label : String) (id : Nat) (r : Registry) :
    (r.enter label id).length ≤ r.length + 1 := by
  induction r with
  | nil => simp [enter]
  | cons e r ih => simp only [enter]; split <;> simp_all

theorem length_leave_le (label : String) (r : Registry) : (r.leave label).length ≤ r.length :=
  List.length_filter_le ..

end Registry
end Socks5
