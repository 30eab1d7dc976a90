import Mathlib.Algebra.Order.Ring.Unbundled.Rat
import Socks5.Proofs.Server.Attendance
import Socks5.Proofs.Server.Door
import Socks5.Proofs.Server.Succession

/-!
Timers that run. A step of a run at most brings about what was not so before, and the time then is the time of
that (`BecomesAt`). Whoever waits for bytes does so under a timer that was set when its client came, and
whoever waits for its dial under one that was set when the dial was made, and neither timer has run out yet
(`Handler.Timed`, `timed_runAll`).
-/
namespace Socks5

open Channel (Stream)

/-! ## When something comes about -/

section

variable (w : Surroundings) (config : ServerConfig) (P : Server → Prop)

/-- A step of the run brings `P` about, and this is the time then. -/
def BecomesAt (steps : List Service.Step) (t : Time) : Prop :=
  ∃ n, ¬ P ((Service.fresh config).runAll w (steps.take n)).server ∧
    P ((Service.fresh config).runAll w (steps.take (n + 1))).server ∧
    ((Service.fresh config).runAll w (steps.take n)).server.now = t

variable {w config P} {steps : List Service.Step} {t t' : Time}

theorem holds_runAll (hP : ∀ s i, P s → P (Server.step w s i)) {s : Service} (h : P s.server)
    (steps : List Service.Step) : P (s.runAll w steps).server := by
  refine List.foldlRecOn (motive := fun s : Service => P s.server) steps _ h fun s hs x _ => ?_
  cases x with
  | client i => exact hP s.server i hs
  | _ => exact hs

theorem holds_take (hP : ∀ s i, P s → P (Server.step w s i)) {n m : Nat} (hnm : n ≤ m)
    (h : P ((Service.fresh config).runAll w (steps.take n)).server) :
    P ((Service.fresh config).runAll w (steps.take m)).server := by
  have hsplit : steps.take m = steps.take n ++ (steps.take m).drop n := by
    have := List.take_append_drop n (steps.take m)
    rwa [List.take_take, Nat.min_eq_left hnm, eq_comm] at this
  rw [hsplit, Service.runAll_append]
  exact holds_runAll hP h _

/-- What lasts comes about only once. -/
theorem BecomesAt.unique (hP : ∀ s i, P s → P (Server.step w s i)) (h : BecomesAt w config P steps t)
    (h' : BecomesAt w config P steps t') : t = t' := by
  obtain ⟨n, hn, hp, rfl⟩ := h
  obtain ⟨m, hm, hq, rfl⟩ := h'
  rcases Nat.lt_trichotomy n m with hlt | rfl | hgt
  · exact absurd (holds_take hP hlt hp) hm
  · rfl
  · exact absurd (holds_take hP hgt hq) hn

theorem BecomesAt.concat (h : BecomesAt w config P steps t) (x : Service.Step) :
    BecomesAt w config P (steps ++ [x]) t := by
  obtain ⟨n, hn, hp, rfl⟩ := h
  have hlt : n < steps.length := by
    by_contra hge
    rw [List.take_of_length_le (by omega)] at hn hp
    exact hn hp
  refine ⟨n, ?_⟩
  rw [List.take_append_of_le_length (by omega), List.take_append_of_le_length (by omega)]
  exact ⟨hn, hp, rfl⟩

theorem becomesAt_concat {x : Service.Step} (hn : ¬ P ((Service.fresh config).runAll w steps).server)
    (hp : P (((Service.fresh config).runAll w steps).step w x).server) :
    BecomesAt w config P (steps ++ [x]) ((Service.fresh config).runAll w steps).server.now := by
  refine ⟨steps.length, ?_⟩
  have hall : (steps ++ [x]).take (steps.length + 1) = steps ++ [x] := List.take_of_length_le (by simp)
  rw [List.take_left, hall, Service.runAll_concat]
  exact ⟨hn, hp, rfl⟩

end

/-- The client with this number has come. -/
def Server.HasCome (id : Nat) (s : Server) : Prop := id < s.clients.length

/-- A dial was made for the client with this number. -/
def Server.HasDialled (id : Nat) (s : Server) : Prop := (ledger (s.historyOf id)).dials ≠ []

instance (id : Nat) (s : Server) : Decidable (s.HasCome id) := inferInstanceAs (Decidable (_ < _))

instance (id : Nat) (s : Server) : Decidable (s.HasDialled id) := inferInstanceAs (Decidable (_ ≠ _))

theorem Server.hasCome_step {w : Surroundings} {id : Nat} (s : Server) (i : Server.Input)
    (h : s.HasCome id) : (s.step w i).HasCome id := by
  unfold HasCome at h ⊢
  rw [length_step]
  omega

theorem Server.hasDialled_step {w : Surroundings} {id : Nat} (s : Server) (i : Server.Input)
    (h : s.HasDialled id) : (s.step w i).HasDialled id := by
  obtain ⟨added, ha⟩ := ((history_step w s i).filter (·.1 = id)).map Prod.snd
  have hgrows := dials_append (s.historyOf id) added
  unfold HasDialled at h ⊢
  unfold historyOf
  rw [← ha]
  intro hnil
  rw [historyOf, hnil] at hgrows
  exact h (List.prefix_nil.1 hgrows)

/-! ## Timers of a handler -/

/-- The timer of what began at `since` and may take so long. It has not run out by now. -/
structure Timeout.Runs (limit : Timeout) (since now : Time) (timer : Option Timer) : Prop where
  timer_eq : timer = limit.map fun d => ⟨since + d, since⟩
  ahead : ∀ d, limit = some d → now < since + d

theorem Timeout.Runs.some {d since now : Time} {timer : Option Timer} (h : Runs (some d) since now timer) :
    timer = some ⟨since + d, since⟩ ∧ now < since + d := ⟨h.timer_eq, h.ahead d rfl⟩

/-- Time goes on, and the timer does not run out. -/
theorem Timeout.Runs.later {limit : Timeout} {since now now' : Time} {timer : Option Timer}
    (h : Runs limit since now timer) (hn : ∀ x, timer = Option.some x → now' < x.due) :
    Runs limit since now' timer := by
  refine ⟨h.timer_eq, ?_⟩
  rintro d rfl
  exact hn _ h.timer_eq

namespace Handler

/-- What is left some time and starts now has not run out. -/
theorem Sets.runs {m : Moment} {limit : Timeout} {timer : Option Timer} (h : Sets m limit timer) :
    limit.Runs m.now m.now timer := by
  refine ⟨h.timer_eq, ?_⟩
  rintro d rfl
  have hpos : ¬ d ≤ 0 := by simpa [Timeout.isSpent] using h.left
  exact lt_add_of_pos_right m.now (not_le.1 hpos)

/-- A handler that waits under a timer that has not run out by now, which for bytes was set when the client
came, and for a dial when that was made. It has no channel to its target meanwhile. -/
def Timed (T C : Timeout) (now : Time) (Came Dialled : Time → Prop) : Handler → Prop :=
  Waits (fun timer => ∃ t, Came t ∧ T.Runs t now timer) fun timer => ∃ t, Dialled t ∧ C.Runs t now timer

variable {T C : Timeout} {now : Time} {Came Dialled Came' Dialled' : Time → Prop} {h h' : Handler} {t : Time}

theorem Timed.mono (ht : h.Timed T C now Came Dialled) (hc : ∀ t, Came t → Came' t)
    (hd : ∀ t, Dialled t → Dialled' t) : h.Timed T C now Came' Dialled' :=
  ht.imp (fun _ ⟨t, h, hr⟩ => ⟨t, hc t h, hr⟩) fun _ _ ⟨t, h, hr⟩ => ⟨t, hd t h, hr⟩

theorem Timed.resume {m : Moment} (hC : m.config.connectTimeout = C) (ht : h.Timed T C m.now Came Dialled)
    (hd : ∀ stage timer timer', h.control = .handshaking stage timer →
      (h.resume m).control = .dialling timer' → Dialled m.now) :
    (h.resume m).Timed T C m.now Came Dialled := by
  subst hC
  cases hc : h.control with
  | handshaking stage timer =>
    unfold Timed Waits at ht
    rw [hc] at ht
    refine (waits_resume m hc ht.1 ht.2).imp (fun _ => id) fun timer' hc' hs => ?_
    exact ⟨m.now, hd stage timer timer' hc hc', hs.runs⟩
  | dialling timer =>
    have he : h.resume m = h := by rw [Handler.resume, hc]
    rwa [he]
  | _ =>
    have hcom : h.Committed fun _ => True := committed_of_control (by simp [hc]) (by simp [hc])
    exact (hcom.resume Channel.lasting_true fun _ => Relay.keeps_true _).waits

/-- Time goes on, and the timer does not run out. -/
theorem Timed.later {now' : Time} (ht : h.Timed T C now Came Dialled)
    (hn : ∀ x, h.timer? = some x → now' < x.due) : h.Timed T C now' Came Dialled := by
  unfold Timed Waits at ht ⊢
  unfold timer? at hn
  cases hc : h.control with
  | handshaking stage timer =>
    rw [hc] at ht hn
    obtain ⟨⟨t, hcame, hr⟩, ho⟩ := ht
    exact ⟨⟨t, hcame, hr.later hn⟩, ho⟩
  | dialling timer =>
    rw [hc] at ht hn
    obtain ⟨⟨t, hdialled, hr⟩, ho⟩ := ht
    exact ⟨⟨t, hdialled, hr.later hn⟩, ho⟩
  | _ => trivial

/-- A timer that runs out is set no more. -/
theorem timed_expire (h : Handler) : h.expire.Timed T C now Came Dialled := (committed_expire h).waits

end Handler

section

variable {w : Surroundings} {config : ServerConfig} {T C : Timeout} {Came Dialled : Time → Prop}
  {name : String} {v v' : View} {h h' : Handler}

theorem timed_resume (hC : v.config.connectTimeout = C)
    (hc : v.client = some (.handled h)) (hc' : (v.resume w).client = some (.handled h'))
    (ht : h.Timed T C v.now Came Dialled)
    (hd : ∀ stage timer timer', h.control = .handshaking stage timer → h'.control = .dialling timer' →
      Dialled v.now) : h'.Timed T C v.now Came Dialled := by
  rw [View.resume, View.client_run hc] at hc'
  cases hn : h.isEnded with
  | true =>
    rw [hn] at hc'
    cases hc'
    exact ht
  | false =>
    rw [hn] at hc'
    cases hc'
    exact ht.resume (m := v.moment w) hC hd

/-- The timers of a client that comes are set as it comes. -/
theorem timed_come {a : Arrival} {info : ConnectionInfo} (hv : v.config = config) (hi : a.peer.info = .ok info)
    (hc : (v.come w a).client = some (.handled h)) (hcame : Came v.now)
    (hd : ∀ timer, h.control = .dialling timer → Dialled v.now) :
    h.Timed config.handshakeTimeout config.connectTimeout (v.come w a).now Came Dialled := by
  subst hv
  unfold View.come at hc ⊢
  rw [hi] at hc ⊢
  cases hc
  refine (Handler.waits_start (v.moment w) a.peer.label info { channel := a.channel }).imp (fun _ hs => ?_) ?_
  · exact ⟨_, hcame, hs.runs⟩
  · exact fun timer hctl hs => ⟨_, hd timer hctl, hs.runs⟩

/-- Time passes: the timer goes on to run, or it runs out. -/
theorem timed_pass (span : Time) (hc : v.client = some (.handled h))
    (hc' : (v.step w name (.pass span)).client = some (.handled h')) (ht : h.Timed T C v.now Came Dialled) :
    h'.Timed T C (v.step w name (.pass span)).now Came Dialled := by
  generalize hu : ({ v with now := v.now + span } : View) = u at *
  have huc : u.client = some (.handled h) := by rw [← hu, hc]
  have hstep : v.step w name (.pass span) = if u.isDue then u.run Handler.expire else u := by
    rw [← hu]
    rfl
  have hnow : (v.step w name (.pass span)).now = u.now := by rw [View.now_pass, ← hu]
  rw [hnow]
  rw [hstep] at hc'
  split at hc'
  · next hdue =>
    obtain ⟨x, hx, -⟩ := (View.isDue_iff huc).1 hdue
    rw [View.client_run huc, Handler.isEnded_of_timer? hx] at hc'
    cases hc'
    exact Handler.timed_expire h
  · next hdue =>
    rw [huc] at hc'
    cases hc'
    refine ht.later fun x hx => not_le.1 fun hle => ?_
    exact hdue ((View.isDue_iff huc).2 ⟨x, hx, hle⟩)

/-- Whatever turn it is, a timer that runs was set when it should have been. -/
theorem timed_next (hn : v.Next w name v') (hC : v.config.connectTimeout = C)
    (hc : v.client = some (.handled h)) (hc' : v'.client = some (.handled h'))
    (ht : h.Timed T C v.now Came Dialled)
    (hd : ∀ stage timer timer', h.control = .handshaking stage timer → h'.control = .dialling timer' →
      Dialled v.now) : h'.Timed T C v'.now Came Dialled := by
  rcases hn with rfl | ⟨t, hlater, rfl⟩
  · rw [hc] at hc'
    cases hc'
    exact ht
  · cases t with
    | come a => exact absurd rfl (hlater a)
    | receive i =>
      have hu : (v.client.map (Client.receive i)) = some (.handled (h.receive i)) := by
        rw [hc]
        rfl
      have hnow : (v.step w name (.receive i)).now = v.now := View.now_run _ _
      rw [hnow]
      exact timed_resume (v := { v with client := v.client.map (Client.receive i) }) hC hu hc' ht hd
    | release held =>
      have hnow : (v.step w name (.release held)).now = v.now := View.now_run _ _
      rw [hnow]
      exact timed_resume (v := { v with released := v.released.insert (held, name) }) hC hc hc' ht hd
    | pass span => exact timed_pass span hc hc' ht

/-! ## Runs -/

/-- The client with this number comes. -/
def ComesAt (w : Surroundings) (config : ServerConfig) (id : Nat) : List Service.Step → Time → Prop :=
  BecomesAt w config (Server.HasCome id)

/-- A dial is made for the client with this number. -/
def DialsAt (w : Surroundings) (config : ServerConfig) (id : Nat) : List Service.Step → Time → Prop :=
  BecomesAt w config (Server.HasDialled id)

variable {steps : List Service.Step} {id : Nat}

theorem sound_of_handled
    (hc : ((Service.fresh config).runAll w steps).server.clients[id]? = some (.handled h)) :
    h.Sound w config (((Service.fresh config).runAll w steps).server.historyOf id) ∧ h.history = [] :=
  ((upheld_sound w config).runAll steps).holds id _ hc

theorem hasDialled_of_dialling
    (hc : ((Service.fresh config).runAll w steps).server.clients[id]? = some (.handled h))
    {timer : Option Timer} (hctl : h.control = .dialling timer) :
    ((Service.fresh config).runAll w steps).server.HasDialled id := by
  obtain ⟨hs, hh⟩ := sound_of_handled hc
  obtain ⟨r, hd⟩ := hs.dialling hh hctl
  obtain ⟨host, -, hdials, -⟩ := hd.dialled
  intro hnil
  rw [hdials] at hnil
  cases hnil

/-- Whoever waits in a run does so under a timer that was set when its client came or its dial was made, and
that has not run out. -/
theorem timed_runAll (w : Surroundings) (config : ServerConfig) (steps : List Service.Step)
    (hc : ((Service.fresh config).runAll w steps).server.clients[id]? = some (.handled h)) :
    h.Timed config.handshakeTimeout config.connectTimeout ((Service.fresh config).runAll w steps).server.now
      (ComesAt w config id steps) (DialsAt w config id steps) := by
  induction steps using List.reverseRecOn generalizing h with
  | nil => cases hc
  | append_singleton steps x ih =>
    have hdials := fun timer => @hasDialled_of_dialling w config h (steps ++ [x]) id hc timer
    rw [Service.runAll_concat] at hc hdials ⊢
    have hconfig := (Server.tidy_runAll w config steps).config_eq
    rcases Service.handled_step (Service.acquainted_runAll w config steps) hc with
      ⟨a, info, rfl, hlen, hi, hn, hv⟩ | ⟨g, hold, hn, hnext⟩
    · have hcame : ComesAt w config id (steps ++ [.client (.connect a)])
          ((Service.fresh config).runAll w steps).server.now := by
        refine becomesAt_concat ?_ (List.getElem?_eq_some_iff.1 hc).1
        simp [Server.HasCome, hlen]
      have hnone : ((Service.fresh config).runAll w steps).server.historyOf id = [] :=
        ((upheld_sound w config).runAll steps).blank id (Nat.le_of_eq hlen)
      have hd : ∀ timer, h.control = .dialling timer → DialsAt w config id (steps ++ [.client (.connect a)])
          ((Service.fresh config).runAll w steps).server.now := by
        intro timer hctl
        refine becomesAt_concat (fun hdialled => hdialled ?_) (hdials timer hctl)
        rw [hnone]
        rfl
      have hclient := (congrArg View.client hv).symm.trans hc
      have ht := timed_come hconfig hi hclient hcame hd
      rwa [← hv] at ht
    · have hd : ∀ stage timer timer', g.control = .handshaking stage timer → h.control = .dialling timer' →
          DialsAt w config id (steps ++ [x]) ((Service.fresh config).runAll w steps).server.now := by
        intro stage timer timer' hg hh
        obtain ⟨hs, hhist⟩ := sound_of_handled hold
        exact becomesAt_concat (fun hdialled => hdialled (hs.handshaking hhist hg).1) (hdials timer' hh)
      have ht := (ih hold).mono (fun _ h => h.concat x) (fun _ h => h.concat x)
      exact timed_next hnext (congrArg ServerConfig.connectTimeout hconfig) hold hc ht hd

end

end Socks5
