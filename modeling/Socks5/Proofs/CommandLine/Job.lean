import Socks5.CommandLine.Job

/-! What a job comes to at a desk, for each way of putting jobs together. What was done before a job stopped
stays on the desk. -/
namespace Socks5.CommandLine.Job

variable {t : Terminal} {d e : Desk}

@[simp] theorem run_pure (a : α) (d : Desk) : (pure a : Job α).run.run d = (.ok a, d) := rfl

@[simp] theorem run_get (d : Desk) : (get : Job Desk).run.run d = (.ok d, d) := rfl

@[simp] theorem run_exit (code : Nat) (d : Desk) : (exit code : Job α).run.run d = (.error (.exit code), d) := rfl

@[simp] theorem run_escape (e : Escape) (d : Desk) :
    (escape e : Job α).run.run d = (.error (.escaped e), d) := rfl

theorem run_bind (j : Job α) (f : α → Job β) (d : Desk) :
    (j >>= f).run.run d = match j.run.run d with
      | (.ok a, e) => (f a).run.run e
      | (.error stop, e) => (.error stop, e) := by
  rw [ExceptT.run_bind, StateT.run_bind]
  rcases h : j.run.run d with ⟨r, e⟩
  cases r <;> rfl

theorem run_bind_of_ok {j : Job α} {f : α → Job β} {a : α} (h : j.run.run d = (.ok a, e)) :
    (j >>= f).run.run d = (f a).run.run e := by rw [run_bind, h]

theorem run_bind_of_error {j : Job α} {f : α → Job β} {stop : Stop} (h : j.run.run d = (.error stop, e)) :
    (j >>= f).run.run d = (.error stop, e) := by rw [run_bind, h]

@[simp] theorem run_lift_ok (wrap : ε → Escape) (a : α) (d : Desk) :
    (lift wrap (.ok a)).run.run d = (.ok a, d) := rfl

@[simp] theorem run_lift_error (wrap : ε → Escape) (x : ε) (d : Desk) :
    (lift wrap (.error x) : Job α).run.run d = (.error (.escaped (wrap x)), d) := rfl

/-- The desk with some more output on it. -/
def shown (s : String) (d : Desk) : Desk := { d with output := d.output ++ s }

theorem run_say_of_ok {s out : String} (h : Console.print t.width s = .ok out) (d : Desk) :
    (say t s).run.run d = (.ok (), shown out d) := by
  rw [say, h, run_bind_of_ok (run_lift_ok ..)]
  rfl

theorem run_say_of_error {s : String} {m : Console.MarkupError} (h : Console.print t.width s = .error m) (d : Desk) :
    (say t s).run.run d = (.error (.escaped (.markup m)), d) := by
  rw [say, h, run_bind_of_error (run_lift_error ..)]

/-- Saying something and then leaving: a text that is no good as markup keeps both from happening. -/
theorem run_say_exit (t : Terminal) (s : String) (code : Nat) (d : Desk) :
    (do say t s; exit code : Job α).run.run d = match Console.print t.width s with
      | .ok out => (.error (.exit code), shown out d)
      | .error m => (.error (.escaped (.markup m)), d) := by
  cases h : Console.print t.width s with
  | ok out => rw [run_bind_of_ok (run_say_of_ok h d), run_exit]
  | error m => rw [run_bind_of_error (run_say_of_error h d)]

end Socks5.CommandLine.Job
