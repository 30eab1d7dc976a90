import Socks5.CommandLine.Serve
import Socks5.Proofs.CommandLine.Job
import Socks5.Proofs.Settings.Shape

/-!
What the command that runs a server makes of its file of settings. A word about one of the file's values is put out
before the command ends. A file that is of no shape for settings is not taken care of, and neither is a word that
is no good as markup (`reported_iff`).
-/
namespace Socks5.CommandLine

variable {t : Terminal} {scene : Scene} {config : String} {o : Overrides} {d : Desk}

open DocumentError (Breaks)

/-- What is put out about a file with a value that is no good. -/
def refusal (t : Terminal) (e : DocumentError) : String :=
  s!"[red]Invalid configuration: {e.message t.manual}[/red]"

/-- What is put out where there is no file. -/
def notice : String := "[yellow]No config file found, using defaults[/yellow]"

/-- Goes on with settings that came about, and ends with what kept them from it. -/
def judge (t : Terminal) : Except DocumentError Settings → Job Settings
  | .ok s => pure s
  | .error e =>
    if e.isValue then do
      Job.say t (refusal t e)
      Job.exit 1
    else Job.escape (.document e)

theorem run_judge (r : Except DocumentError Settings) (d : Desk) :
    (judge t r).run.run d = match r with
      | .ok s => (.ok s, d)
      | .error e =>
        if e.isValue then match Console.print t.width (refusal t e) with
          | .ok out => (.error (.exit 1), Job.shown out d)
          | .error m => (.error (.escaped (.markup m)), d)
        else (.error (.escaped (.document e)), d) := by
  cases r with
  | ok s => exact Job.run_pure s d
  | error e =>
    unfold judge
    dsimp only
    split
    · exact Job.run_say_exit ..
    · exact Job.run_escape (.document e) d

theorem loadSettings_eq (t : Terminal) (config : String) : loadSettings t config = (do
    let files := (← get).files
    unless files.isThere (.ofString config) do Job.say t notice
    judge t (Settings.load t.env files (.ofString config))) := rfl

theorem run_loadSettings_of_isThere (h : d.files.isThere (.ofString config) = true) :
    (loadSettings t config).run.run d =
      (judge t (Settings.load t.env d.files (.ofString config))).run.run d := by
  rw [loadSettings_eq, Job.run_bind_of_ok (Job.run_get d)]
  dsimp only
  rw [if_pos h]

/-- That there is no file can always be put out. -/
theorem print_notice (width : Nat) : ∃ out, Console.print width notice = .ok out := by
  have hp : (Console.plainText notice).isOk = true := by decide +kernel
  unfold Console.print Console.textLines
  cases h : Console.plainText notice with
  | ok cs => exact ⟨_, rfl⟩
  | error m => rw [h] at hp; cases hp

theorem run_loadSettings_of_not_isThere (h : d.files.isThere (.ofString config) = false) :
    ∃ out, (loadSettings t config).run.run d =
      (judge t (Settings.load t.env d.files (.ofString config))).run.run (Job.shown out d) := by
  obtain ⟨out, hout⟩ := print_notice t.width
  refine ⟨out, ?_⟩
  rw [loadSettings_eq, Job.run_bind_of_ok (Job.run_get d)]
  dsimp only
  rw [if_neg (by simp [h])]
  exact Job.run_bind_of_ok (Job.run_say_of_ok hout d)

/-! ## Every content of the file -/

section File
variable {text : String}

/-- The command ends with the loading of its settings where these do not come about. -/
theorem run_serve_of_load_error (scene : Scene) (o : Overrides) {e : DocumentError}
    (hr : d.files.read (.ofString config) = .ok text) (he : Settings.load t.env d.files (.ofString config) = .error e) :
    (serve t scene config o).run.run d =
      if e.isValue then match Console.print t.width (refusal t e) with
        | .ok out => (.error (.exit 1), Job.shown out d)
        | .error m => (.error (.escaped (.markup m)), d)
      else (.error (.escaped (.document e)), d) := by
  have hload := run_loadSettings_of_isThere (t := t) (Files.isThere_of_read hr)
  rw [he, run_judge] at hload
  dsimp only at hload
  revert hload
  split
  · split
    · exact fun hload => Job.run_bind_of_error hload
    · exact fun hload => Job.run_bind_of_error hload
  · exact fun hload => Job.run_bind_of_error hload

/-- What the settings of a file come to: settings, or a word about one of its values that is put out before the
command ends with code one. -/
def Reported (t : Terminal) (scene : Scene) (config : String) (o : Overrides) (d : Desk) : Prop :=
  (∃ s, Settings.load t.env d.files (.ofString config) = .ok s) ∨
    ∃ e out, Settings.load t.env d.files (.ofString config) = .error e ∧
      Console.print t.width (refusal t e) = .ok out ∧
      (serve t scene config o).run.run d = (.error (.exit 1), Job.shown out d)

theorem reported_of_isValue {e : DocumentError} (hr : d.files.read (.ofString config) = .ok text)
    (he : Settings.load t.env d.files (.ofString config) = .error e) (hv : e.isValue = true) :
    Reported t scene config o d ↔ ∃ out, Console.print t.width (refusal t e) = .ok out := by
  have hserve := run_serve_of_load_error scene o hr he
  rw [if_pos hv] at hserve
  constructor
  · rintro (⟨s, hs⟩ | ⟨e', out, he', hout, -⟩)
    · rw [hs] at he
      cases he
    · rw [he'] at he
      cases he
      exact ⟨out, hout⟩
  · rintro ⟨out, hout⟩
    rw [hout] at hserve
    exact .inr ⟨e, out, he, hout, hserve⟩

theorem not_reported_of_not_isValue {e : DocumentError} (hr : d.files.read (.ofString config) = .ok text)
    (he : Settings.load t.env d.files (.ofString config) = .error e) (hv : e.isValue = false) :
    ¬ Reported t scene config o d := by
  have hserve := run_serve_of_load_error scene o hr he
  rw [if_neg (by simp [hv])] at hserve
  rintro (⟨s, hs⟩ | ⟨_, _, _, _, h⟩)
  · rw [hs] at he
    cases he
  · rw [h] at hserve
    cases hserve

/-- Every content of the file is reported exactly if it is of a shape for settings and the word about it is good as
markup. A file of no such shape ends the command with an error that nothing takes care of. -/
theorem reported_iff (hr : d.files.read (.ofString config) = .ok text) :
    (Reported t scene config o d ↔ ¬ Settings.TextDerails t.env text ∧
      ∀ e, Settings.load t.env d.files (.ofString config) = .error e →
        ∃ out, Console.print t.width (refusal t e) = .ok out) ∧
    (Settings.TextDerails t.env text → ∃ e, e.isValue = false ∧
      (serve t scene config o).run.run d = (.error (.escaped (.document e)), d)) := by
  rw [← Settings.derails_iff hr]
  constructor
  · cases he : Settings.load t.env d.files (.ofString config) with
    | ok s => exact iff_of_true (.inl ⟨s, he⟩) ⟨fun ⟨_, h, _⟩ => (nomatch h), fun _ h => (nomatch h)⟩
    | error e =>
      cases hv : e.isValue with
      | true =>
        refine (reported_of_isValue hr he hv).trans ⟨fun h => ⟨?_, fun e' he' => ?_⟩, fun h => h.2 e rfl⟩
        · rintro ⟨e', he', hn⟩
          cases he'
          rw [hv] at hn
          cases hn
        · cases he'
          exact h
      | false => exact iff_of_false (not_reported_of_not_isValue hr he hv) fun h => h.1 ⟨e, rfl, hv⟩
  · rintro ⟨e, he, hn⟩
    refine ⟨e, hn, ?_⟩
    rw [run_serve_of_load_error scene o hr he, if_neg (by simp [hn])]

end File

/-! ## A group without anything in it -/

def emptyGroupText : String := "server:\n"

def emptyGroupDesk : Desk := { files := { working := [], entries := [(["my.yaml"], .text emptyGroupText)] } }

def plainTerminal : Terminal := { width := 80, time := "" }

theorem read_emptyGroup : emptyGroupDesk.files.read (.ofString "my.yaml") = .ok emptyGroupText := rfl

set_option maxRecDepth 10000 in
theorem load_emptyGroup : Settings.load plainTerminal.env emptyGroupDesk.files (.ofString "my.yaml") =
    .error (.notMapping "ServerSettings" "NoneType") := by
  have ht : Yaml.tokens emptyGroupText.toList =
      .ok [.mappingStart, .key, .scalar "server" true, .value, .blockEnd] := by decide +kernel
  rw [Settings.load_of_read read_emptyGroup]
  simp only [Yaml.read, ht]
  rfl

/-- The file is of no shape for settings: nothing is put out about it, and the error of its loading ends the command. -/
theorem reported_iff_emptyGroup :
    emptyGroupDesk.files.read (.ofString "my.yaml") = .ok emptyGroupText ∧
    Settings.TextDerails plainTerminal.env emptyGroupText ∧
    ¬ Reported plainTerminal {} "my.yaml" {} emptyGroupDesk ∧
    ∃ e, e.isValue = false ∧ (serve plainTerminal {} "my.yaml" {}).run.run emptyGroupDesk =
      (.error (.escaped (.document e)), emptyGroupDesk) := by
  have hderails : Settings.TextDerails plainTerminal.env emptyGroupText :=
    (Settings.derails_iff read_emptyGroup).1 ⟨_, load_emptyGroup, rfl⟩
  refine ⟨read_emptyGroup, hderails, fun hr => ?_, (reported_iff read_emptyGroup).2 hderails⟩
  exact ((reported_iff read_emptyGroup).1.1 hr).1 hderails

/-- A group that is there without anything in it is not reported. -/
theorem emptyGroup_escapes :
    ¬ Reported plainTerminal {} "my.yaml" {} emptyGroupDesk ∧
      (serve plainTerminal {} "my.yaml" {}).run.run emptyGroupDesk =
        (.error (.escaped (.document (.notMapping "ServerSettings" "NoneType"))), emptyGroupDesk) :=
  ⟨not_reported_of_not_isValue read_emptyGroup load_emptyGroup rfl,
    run_serve_of_load_error {} {} read_emptyGroup load_emptyGroup⟩

end Socks5.CommandLine
