import Socks5.Proofs.CommandLine.Configuration

/-!
What the command that runs a server makes of the path of its relay. A path of settings that were loaded names a
module; one that is given to the command itself need not, and one that begins with its colon ends the command with
an error that nothing takes care of (`relay_reported_iff`). All other paths lead to the relay, or to a word about
them.
-/
namespace Socks5

/-! ## Paths -/

theorem Text.fst_cut_eq_nil_iff {mark : Char} {s : List Char} :
    (Text.cut mark s).1 = [] ↔ s = [] ∨ s.head? = some mark := by
  cases s with
  | nil => simp [Text.cut]
  | cons c s =>
    simp only [Text.cut]
    split <;> simp_all

theorem Convert.head?_ne_of_isRelayPath {path : String} (h : Convert.isRelayPath path = true) :
    path.toList.head? ≠ some ':' := by
  intro hc
  have hm : (Text.cut ':' path.toList).1 = [] := Text.fst_cut_eq_nil_iff.2 (.inr hc)
  unfold isRelayPath at h
  split at h
  · next m f hcut =>
    rw [hcut] at hm
    replace hm : m = [] := hm
    simp [hm] at h
  · cases h

namespace Library
variable {lib : Library} {path : String}

theorem below_ne_emptyName (m : LibraryModule) (parts : List String) : lib.below m parts ≠ .error .emptyName := by
  induction parts generalizing m with
  | nil => exact nofun
  | cons part parts ih =>
    unfold below
    dsimp only
    split
    · exact ih _
    · split <;> exact nofun

theorem load_eq_emptyName_iff (lib : Library) {name : String} : lib.load name = .error .emptyName ↔ name = "" := by
  unfold load
  constructor
  · intro h
    split at h
    · assumption
    split at h
    · cases h
    split at h
    · split at h
      · exact absurd h (below_ne_emptyName _ _)
      · cases h
    · next hs => exact absurd (List.map_eq_nil_iff.1 hs) (Text.split_ne_nil '.' _)
  · intro h
    rw [if_pos h]

/-- Only a path without a word before its first colon gives no name to look for. -/
theorem locate_eq_emptyName_iff : lib.locate path = .error .emptyName ↔ path = "" ∨ path.toList.head? = some ':' := by
  have hname : String.ofList (Text.cut ':' path.toList).1 = "" ↔ path = "" ∨ path.toList.head? = some ':' := by
    rw [String.ofList_eq_empty_iff, Text.fst_cut_eq_nil_iff, String.toList_eq_nil_iff]
  rw [← hname, ← lib.load_eq_emptyName_iff]
  unfold locate
  dsimp only
  rw [bind_eq_error_iff, or_iff_left]
  rintro ⟨m, -, h⟩
  split at h <;> cases h

end Library
end Socks5

namespace Socks5.CommandLine

variable {t : Terminal} {scene : Scene} {config : String} {o : Overrides} {d e : Desk} {s : Settings} {path : String}

/-! ## The parts of the command -/

theorem load_of_loadSettings (h : (loadSettings t config).run.run d = (.ok s, e)) :
    Settings.load t.env d.files (.ofString config) = .ok s := by
  have hjudge (f : Desk) (hf : (judge t (Settings.load t.env d.files (.ofString config))).run.run f = (.ok s, e)) :
      Settings.load t.env d.files (.ofString config) = .ok s := by
    rw [run_judge] at hf
    split at hf
    · cases hf
      assumption
    · split at hf
      · split at hf <;> cases hf
      · cases hf
  cases hc : d.files.isThere (.ofString config) with
  | true =>
    rw [run_loadSettings_of_isThere hc] at h
    exact hjudge d h
  | false =>
    obtain ⟨out, hout⟩ := run_loadSettings_of_not_isThere (t := t) hc
    rw [hout] at h
    exact hjudge _ h

theorem of_requireSound (h : (requireSound t s).run.run d = (.ok (), e)) :
    e = d ∧ s.sheet.problems t.env d.files = .ok [] := by
  unfold requireSound at h
  rw [Job.run_bind_of_ok (Job.run_get d)] at h
  cases hp : s.sheet.problems t.env d.files with
  | error m =>
    rw [hp, Job.run_bind_of_error (Job.run_lift_error ..)] at h
    cases h
  | ok ps =>
    rw [hp, Job.run_bind_of_ok (Job.run_lift_ok ..)] at h
    cases ps with
    | nil =>
      cases h
      exact ⟨rfl, rfl⟩
    | cons p ps =>
      -- the problems are told, and then the command ends
      dsimp only at h
      rw [Job.run_bind] at h
      split at h <;> cases h

theorem run_requireSound (h : s.sheet.problems t.env d.files = .ok []) :
    (requireSound t s).run.run d = (.ok (), d) := by
  unfold requireSound
  rw [Job.run_bind_of_ok (Job.run_get d), h]
  rfl

theorem relay_of_sound {env : Environment} {fs : Files} (h : s.sheet.problems env fs = .ok []) :
    ∃ path, s.server.relay = some path ∧ path ≠ "" := by
  obtain ⟨port, -, h⟩ := bind_eq_ok_iff.1 h
  obtain ⟨file, -, h⟩ := bind_eq_ok_iff.1 h
  replace h := Except.ok.inj h
  obtain ⟨hrelay, -⟩ := List.append_eq_nil_iff.1 (List.append_eq_nil_iff.1 h).1
  have hget : s.sheet.server.get "relay" = .ofOption .text s.server.relay := rfl
  rw [hget] at hrelay
  cases hr : s.server.relay with
  | none => rw [hr] at hrelay; cases hrelay
  | some path =>
    refine ⟨path, rfl, fun hempty => ?_⟩
    subst hempty
    rw [hr] at hrelay
    cases hrelay

/-- What is put out about a path that leads to no relay. -/
def relayRefusal (path : String) (x : LocateError) : String := s!"[red]Cannot load relay {path}: {x.message}[/red]"

theorem run_findRelay_of_ok {name : String} (h : t.library.locate path = .ok name) (d : Desk) :
    (findRelay t path).run.run d = (.ok name, d) := by
  unfold findRelay
  rw [h]
  rfl

theorem run_findRelay_of_emptyName (h : t.library.locate path = .error .emptyName) (d : Desk) :
    (findRelay t path).run.run d = (.error (.escaped (.locate .emptyName)), d) := by
  unfold findRelay
  rw [h]
  rfl

theorem run_findRelay_of_error {x : LocateError} (h : t.library.locate path = .error x) (hx : x ≠ .emptyName)
    (d : Desk) : (findRelay t path).run.run d = match Console.print t.width (relayRefusal path x) with
      | .ok out => (.error (.exit 1), Job.shown out d)
      | .error m => (.error (.escaped (.markup m)), d) := by
  unfold findRelay
  rw [h]
  cases x with
  | emptyName => exact absurd rfl hx
  | _ => exact Job.run_say_exit ..

/-! ## Every path -/

/-- The command from the relay that it found on. -/
def launch (t : Terminal) (scene : Scene) (s : Settings) (relay : String) : Job Unit := do
  let (k, files) ← Job.lift .fault (Log.Sink.open t.env s.log (← get).files)
  modify fun d => { d with files, relay := some relay }
  listen t scene s k relay

/-- The command loads settings, and with what is put in their place it finds nothing wrong. -/
structure Passes (t : Terminal) (config : String) (o : Overrides) (d : Desk) (s : Settings) (e : Desk) : Prop where
  loads : ∃ loaded, (loadSettings t config).run.run d = (.ok loaded, e) ∧
    s = { loaded with server := o.apply loaded.server }
  sound : (requireSound t s).run.run e = (.ok (), e)

theorem Passes.run_serve (h : Passes t config o d s e) (hp : s.server.relay = some path) :
    (serve t scene config o).run.run d = (do launch t scene s (← findRelay t path)).run.run e := by
  have hpath : s.server.relay.getD "" = path := by rw [hp, Option.getD_some]
  obtain ⟨⟨loaded, hl, rfl⟩, hs⟩ := h
  rw [← hpath]
  unfold serve
  rw [Job.run_bind_of_ok hl, Job.run_bind_of_ok hs]
  rfl

/-- There is a path, and one that does not come with the command itself names a module. -/
theorem Passes.relay (h : Passes t config o d s e) :
    ∃ path, s.server.relay = some path ∧ path ≠ "" ∧ (o.relay = some path ∨ Convert.isRelayPath path = true) := by
  obtain ⟨⟨loaded, hl, rfl⟩, hs⟩ := h
  obtain ⟨path, hp, hne⟩ := relay_of_sound (of_requireSound hs).2
  refine ⟨path, hp, hne, ?_⟩
  replace hp : o.relay.or loaded.server.relay = some path := hp
  cases ho : o.relay with
  | some p =>
    rw [ho] at hp
    exact .inl hp
  | none =>
    rw [ho] at hp
    exact .inr (Settings.isRelayPath_of_load (load_of_loadSettings hl) hp)

/-- A path that comes with the command and begins with its colon. -/
def Nameless (o : Overrides) (path : String) : Prop := o.relay = some path ∧ path.toList.head? = some ':'

theorem Passes.locate_eq_emptyName_iff (h : Passes t config o d s e) (hp : s.server.relay = some path) :
    t.library.locate path = .error .emptyName ↔ Nameless o path := by
  obtain ⟨p, hr, hne, ho⟩ := h.relay
  cases hp.symm.trans hr
  rw [Library.locate_eq_emptyName_iff, or_iff_right hne]
  refine ⟨fun hc => ⟨?_, hc⟩, fun hn => hn.2⟩
  exact ho.resolve_right fun hm => Convert.head?_ne_of_isRelayPath hm hc

/-- What a path comes to: the command goes on with the relay that it leads to, or puts out why there is none and
ends with code one. -/
def RelayReported (t : Terminal) (scene : Scene) (config : String) (o : Overrides) (d : Desk) (s : Settings)
    (e : Desk) (path : String) : Prop :=
  (∃ name, t.library.locate path = .ok name ∧
    (serve t scene config o).run.run d = (launch t scene s name).run.run e) ∨
  ∃ x out, t.library.locate path = .error x ∧ Console.print t.width (relayRefusal path x) = .ok out ∧
    (serve t scene config o).run.run d = (.error (.exit 1), Job.shown out e)

theorem relayReported_of_ok {name : String} (h : Passes t config o d s e) (hp : s.server.relay = some path)
    (hl : t.library.locate path = .ok name) : RelayReported t scene config o d s e path := by
  refine .inl ⟨name, hl, ?_⟩
  rw [h.run_serve hp, Job.run_bind_of_ok (run_findRelay_of_ok hl e)]

theorem not_relayReported_of_emptyName (h : Passes t config o d s e) (hp : s.server.relay = some path)
    (hl : t.library.locate path = .error .emptyName) :
    ¬ RelayReported t scene config o d s e path ∧
      (serve t scene config o).run.run d = (.error (.escaped (.locate .emptyName)), e) := by
  have hserve : (serve t scene config o).run.run d = (.error (.escaped (.locate .emptyName)), e) := by
    rw [h.run_serve hp, Job.run_bind_of_error (run_findRelay_of_emptyName hl e)]
  refine ⟨?_, hserve⟩
  rintro (⟨name, hok, -⟩ | ⟨x, out, -, -, hexit⟩)
  · rw [hl] at hok
    cases hok
  · rw [hserve] at hexit
    cases hexit

theorem relayReported_of_error {x : LocateError} (h : Passes t config o d s e) (hp : s.server.relay = some path)
    (hl : t.library.locate path = .error x) (hx : x ≠ .emptyName) :
    RelayReported t scene config o d s e path ↔ ∃ out, Console.print t.width (relayRefusal path x) = .ok out := by
  constructor
  · rintro (⟨name, hok, -⟩ | ⟨y, out, hy, hout, -⟩)
    · rw [hl] at hok
      cases hok
    · rw [hl] at hy
      cases hy
      exact ⟨out, hout⟩
  · rintro ⟨out, hout⟩
    have hfind := run_findRelay_of_error hl hx e
    rw [hout] at hfind
    exact .inr ⟨x, out, hl, hout, by rw [h.run_serve hp, Job.run_bind_of_error hfind]⟩

/-- For every path of a relay that passes the checks before: the command goes on with the relay, or what is wrong
is put out and it ends with code one, exactly if the path does not come with the command without a word before its
colon, and the word about it is good as markup. -/
theorem relay_reported_iff (h : Passes t config o d s e) :
    ∃ path, s.server.relay = some path ∧
      (RelayReported t scene config o d s e path ↔ ¬ Nameless o path ∧
        ∀ x, t.library.locate path = .error x → ∃ out, Console.print t.width (relayRefusal path x) = .ok out) ∧
      (Nameless o path → (serve t scene config o).run.run d = (.error (.escaped (.locate .emptyName)), e)) := by
  obtain ⟨path, hp, -, -⟩ := h.relay
  have hempty := h.locate_eq_emptyName_iff hp
  refine ⟨path, hp, ?_, fun hn => (not_relayReported_of_emptyName h hp (hempty.2 hn)).2⟩
  rw [← hempty]
  cases hl : t.library.locate path with
  | ok name => exact iff_of_true (relayReported_of_ok h hp hl) ⟨nofun, nofun⟩
  | error x =>
    by_cases hx : x = .emptyName
    · subst hx
      exact iff_of_false (not_relayReported_of_emptyName h hp hl).1 fun hn => hn.1 rfl
    · refine (relayReported_of_error h hp hl hx).trans ⟨fun hout => ⟨?_, ?_⟩, fun hn => hn.2 x rfl⟩
      · exact fun he => hx (Except.error.inj he)
      · intro y hy
        cases hy
        exact hout

/-! ## A path that names a module, and one that does not -/

def relayTerminal : Terminal where
  width := 80
  time := ""
  library := [{ name := "relays", attributes := [("tunnel", .callable "tunnel")] }]

/-- A file without anything in it. -/
def emptyFileDesk : Desk := { files := { working := [], entries := [(["my.yaml"], .text "")] } }

theorem passes_of_relay_given (path : String) (h : path ≠ "") :
    Passes relayTerminal "my.yaml" { relay := some path } emptyFileDesk
      { server := { relay := some path } } emptyFileDesk := by
  have hproblems : ({ server := { relay := some path } } : Settings).sheet.problems [] emptyFileDesk.files =
      .ok (SettingsSheet.relayProblems (.text path) ++ [] ++ []) := rfl
  have hnone : SettingsSheet.relayProblems (.text path) = [] := by simp [SettingsSheet.relayProblems, Value.isAbsent, h]
  rw [hnone] at hproblems
  exact ⟨⟨{}, rfl, rfl⟩, run_requireSound hproblems⟩

/-- The path leads to a relay, and the command goes on with it. -/
theorem relay_reported_iff_tunnel :
    Passes relayTerminal "my.yaml" { relay := some "relays:tunnel" } emptyFileDesk
      { server := { relay := some "relays:tunnel" } } emptyFileDesk ∧
    (serve relayTerminal {} "my.yaml" { relay := some "relays:tunnel" }).run.run emptyFileDesk =
      (launch relayTerminal {} { server := { relay := some "relays:tunnel" } } "tunnel").run.run emptyFileDesk := by
  have hpasses := passes_of_relay_given "relays:tunnel" (by decide)
  have hlocate : relayTerminal.library.locate "relays:tunnel" = .ok "tunnel" := by decide +kernel
  have hnamed : ¬ Nameless { relay := some "relays:tunnel" } "relays:tunnel" := by
    rintro ⟨-, hc⟩
    exact absurd hc (by decide)
  have hfound : ∀ x, relayTerminal.library.locate "relays:tunnel" ≠ .error x := by
    intro x hx
    rw [hlocate] at hx
    cases hx
  have hreported : RelayReported relayTerminal {} "my.yaml" { relay := some "relays:tunnel" } emptyFileDesk
      { server := { relay := some "relays:tunnel" } } emptyFileDesk "relays:tunnel" := by
    obtain ⟨path, hp, hiff, -⟩ := relay_reported_iff hpasses
    cases hp
    exact hiff.2 ⟨hnamed, fun x hx => absurd hx (hfound x)⟩
  refine ⟨hpasses, ?_⟩
  rcases hreported with ⟨name, hl, hrun⟩ | ⟨x, -, hx, -⟩
  · rw [hlocate] at hl
    cases hl
    exact hrun
  · exact absurd hx (hfound x)

/-- A path without a word before its colon is not reported. -/
theorem nameless_escapes :
    ¬ RelayReported relayTerminal {} "my.yaml" { relay := some ":x" } emptyFileDesk
        { server := { relay := some ":x" } } emptyFileDesk ":x" ∧
      (serve relayTerminal {} "my.yaml" { relay := some ":x" }).run.run emptyFileDesk =
        (.error (.escaped (.locate .emptyName)), emptyFileDesk) :=
  not_relayReported_of_emptyName (passes_of_relay_given ":x" (by decide)) rfl
    (Library.locate_eq_emptyName_iff.2 (.inr rfl))

end Socks5.CommandLine
