import Socks5.CommandLine.Decode
import Socks5.Proofs.CommandLine.Job
import Socks5.Proofs.Number.Literal

/-!
How people write reply codes. A text stands for a code exactly if it is the code's name, in letters of any case, or
a literal of its number with blanks around it; the command that shows replies turns all other texts down, and the
case of letters makes no difference to it (`reply_spelled`).
-/
namespace Socks5

open Number (SpellsInteger)

/-- Two texts that differ in the case of letters at most. -/
def Alike (s t : String) : Prop := s.toList.map Char.toLower = t.toList.map Char.toLower

namespace ReplyCode

variable {s t : String} {x : Char} {c : ReplyCode} {z : Int}

/-- A text that stands for the code. -/
def Spells (s : String) (c : ReplyCode) : Prop := Alike s c.name ∨ SpellsInteger s.toList c.code.toNat

/-! ## Names -/

theorem lookup_longCases (hx : x.toNat < 128) : Text.longCases.lookup x.toNat = none := by
  have hlong : ∀ e ∈ Text.longCases, 128 ≤ e.1 := by decide +kernel
  refine List.lookup_eq_none_iff.2 fun e he => ?_
  have := hlong e he
  simp only [bne_iff_ne]
  omega

/-- In ASCII only the first run of letters has an upper case. -/
theorem findSome?_caseRuns (hx : x.toNat < 128) :
    Text.caseRuns.findSome? (·.upper? x.toNat) = Text.CaseRun.upper? ⟨0x61, 0x7A, 1, -32⟩ x.toNat := by
  have hruns : ∀ r ∈ Text.caseRuns.tail, 128 ≤ r.first := by decide +kernel
  have hrest : Text.caseRuns.tail.findSome? (·.upper? x.toNat) = none := by
    refine List.findSome?_eq_none_iff.2 fun r hr => if_neg ?_
    have := hruns r hr
    omega
  have hcons : Text.caseRuns = ⟨0x61, 0x7A, 1, -32⟩ :: Text.caseRuns.tail := rfl
  rw [hcons, List.findSome?_cons, hrest]
  cases Text.CaseRun.upper? ⟨0x61, 0x7A, 1, -32⟩ x.toNat <;> rfl

theorem upperChar_ascii (hx : x.toNat < 128) : Text.upperChar x = [x.toUpper] := by
  have hall : ∀ n < 128, Char.ofNat ((Text.CaseRun.upper? ⟨0x61, 0x7A, 1, -32⟩ n).getD n) =
      (Char.ofNat n).toUpper := by decide +kernel
  have h := hall x.toNat hx
  rw [Char.ofNat_toNat] at h
  rw [Text.upperChar, lookup_longCases hx, findSome?_caseRuns hx, ← h]
  cases Text.CaseRun.upper? ⟨0x61, 0x7A, 1, -32⟩ x.toNat with
  | some n => rfl
  | none => rw [Option.getD_none, Char.ofNat_toNat]

theorem upper_ascii (hs : ∀ x ∈ s.toList, x.toNat < 128) : (Text.upper s).toList = s.toList.map Char.toUpper := by
  rw [Text.upper, String.toList_ofList, List.map_eq_flatMap]
  refine List.flatMap_congr fun x hx => ?_
  rw [upperChar_ascii (hs x hx)]

theorem upper_name (c : ReplyCode) : c.name.toList.map Char.toUpper = c.name.toList := by
  cases c <;> decide

theorem ofName?_eq_some_iff : ofName? s = some c ↔ s = c.name := by
  constructor
  · intro h
    rw [ofName?] at h
    have hfound := List.find?_some h
    simpa [eq_comm] using hfound
  · rintro rfl
    exact ofName?_name c

theorem ofName?_upper_iff (hs : ∀ x ∈ s.toList, x.toNat < 128) : ofName? (Text.upper s) = some c ↔ Alike s c.name := by
  rw [ofName?_eq_some_iff, ← String.toList_inj, upper_ascii hs]
  constructor
  · intro h
    rw [Alike, ← h, List.map_map]
    exact List.map_congr_left fun x _ => (Char.toLower_toUpper_eq_toLower x).symm
  · intro h
    have hup := congrArg (List.map Char.toUpper) h
    rw [List.map_map, List.map_map] at hup
    have hfold : Char.toUpper ∘ Char.toLower = Char.toUpper := funext Char.toUpper_toLower_eq_toUpper
    rwa [hfold, upper_name] at hup

/-! ## Numbers -/

theorem ofCode?_eq_some_iff : ofCode? z = some c ↔ z = c.code.toNat := by
  constructor
  · intro h
    rw [ofCode?] at h
    have hfound := List.find?_some h
    simpa [eq_comm] using hfound
  · rintro rfl
    exact ofCode?_code c

/-- No name is a number: it begins with a letter. -/
theorem not_spellsInteger_of_alike (h : Alike s c.name) : ¬ SpellsInteger s.toList z := by
  intro hz
  obtain ⟨x, r, hs, hx⟩ := hz.head
  rw [Alike, hs] at h
  obtain ⟨y, t, hname, hy, -⟩ := List.map_eq_cons_iff.1 h.symm
  have hletter : (c.name.toList.head?.all Char.isAlpha) = true := by cases c <;> decide
  rw [hname, List.head?_cons, Option.all_some, ← Char.isAlpha_toLower_eq_isAlpha, hy, Char.isAlpha_toLower_eq_isAlpha,
    hx] at hletter
  cases hletter

/-! ## Texts that stand for codes -/

theorem ofSpelling?_eq_some_iff (hs : ∀ x ∈ s.toList, x.toNat < 128) : ofSpelling? s = some c ↔ Spells s c := by
  have hnumber : (Number.literal? s.toList).bind ofCode? = some c ↔ SpellsInteger s.toList c.code.toNat := by
    simp only [Option.bind_eq_some_iff, Number.literal?_eq_some_iff hs, ofCode?_eq_some_iff, exists_eq_right]
  unfold ofSpelling? Spells
  cases hn : (Number.literal? s.toList).bind ofCode? with
  | none =>
    rw [hn] at hnumber
    rw [← ofName?_upper_iff hs, ← hnumber]
    simp
  | some e =>
    rw [hn] at hnumber
    rw [← hnumber, or_iff_right]
    · rfl
    · intro hname
      obtain ⟨z, hz, -⟩ := Option.bind_eq_some_iff.1 hn
      exact not_spellsInteger_of_alike hname ((Number.literal?_eq_some_iff hs).1 hz)

theorem Spells.congr (h : Spells s c) (ht : Alike s t) : Spells t c :=
  h.imp (fun hname => ht.symm.trans hname) fun hz => hz.congr ht

theorem ascii_of_alike (hs : ∀ x ∈ s.toList, x.toNat < 128) (ht : Alike s t) : ∀ x ∈ t.toList, x.toNat < 128 := by
  intro x hx
  have hmem : x.toLower ∈ s.toList.map Char.toLower := by
    rw [ht]
    exact List.mem_map_of_mem hx
  obtain ⟨y, hy, hxy⟩ := List.mem_map.1 hmem
  rw [← Number.toNat_toLower_lt_iff, ← hxy, Number.toNat_toLower_lt_iff]
  exact hs y hy

/-- The case of letters makes no difference to the code. -/
theorem ofSpelling?_congr (hs : ∀ x ∈ s.toList, x.toNat < 128) (ht : Alike s t) : ofSpelling? t = ofSpelling? s := by
  ext c
  rw [ofSpelling?_eq_some_iff hs, ofSpelling?_eq_some_iff (ascii_of_alike hs ht)]
  exact ⟨fun h => h.congr (Eq.symm ht), fun h => h.congr ht⟩

end ReplyCode

/-! ## The command -/

namespace CommandLine

open ReplyCode (Spells)

variable {t : Terminal} {d : Desk} {s : String} {c : ReplyCode}

/-- What is said about a reply can always be put out. -/
theorem print_replyText (width : Nat) (c : ReplyCode) : ∃ out, Console.print width (replyText c) = .ok out := by
  have hp : (Console.plainText (replyText c)).isOk = true := by cases c <;> decide +kernel
  unfold Console.print Console.textLines
  cases h : Console.plainText (replyText c) with
  | ok cs => exact ⟨_, rfl⟩
  | error m => rw [h] at hp; cases hp

theorem run_reply_of_some (h : ReplyCode.ofSpelling? s = some c) :
    ∃ out, Console.print t.width (replyText c) = .ok out ∧ (reply t s).run.run d = (.ok (), Job.shown out d) := by
  obtain ⟨out, hout⟩ := print_replyText t.width c
  refine ⟨out, hout, ?_⟩
  rw [reply, h]
  exact Job.run_say_of_ok hout d

theorem run_reply_of_none (h : ReplyCode.ofSpelling? s = none) :
    (reply t s).run.run d = (.error (.escaped (.usage (unknownReply s))), d) := by
  rw [reply, h]
  exact Job.run_escape _ d

/-- A text in ASCII is read as a code exactly if it stands for this code. Then the command shows the reply, and
otherwise it says that there is no such code and does nothing else. The case of letters makes no difference. -/
theorem reply_spelled (t : Terminal) (d : Desk) (hs : ∀ x ∈ s.toList, x.toNat < 128) :
    (∀ c, ReplyCode.ofSpelling? s = some c ↔ Spells s c) ∧
    (∀ c, Spells s c →
      ∃ out, Console.print t.width (replyText c) = .ok out ∧ (reply t s).run.run d = (.ok (), Job.shown out d)) ∧
    ((∀ c, ¬ Spells s c) → (reply t s).run.run d = (.error (.escaped (.usage (unknownReply s))), d)) ∧
    ∀ u, Alike s u → ReplyCode.ofSpelling? u = ReplyCode.ofSpelling? s := by
  have hread (c : ReplyCode) := ReplyCode.ofSpelling?_eq_some_iff (c := c) hs
  refine ⟨hread, fun c hc => run_reply_of_some ((hread c).2 hc), fun hnone => run_reply_of_none ?_,
    fun u hu => ReplyCode.ofSpelling?_congr hs hu⟩
  exact Option.eq_none_iff_forall_ne_some.2 fun c hc => hnone c ((hread c).1 hc)

/-- Code eight as a hexadecimal numeral with a mark after its base, in either case. -/
theorem reply_spelled_marked :
    (∀ x ∈ "0X_8".toList, x.toNat < 128) ∧ Spells "0X_8" .addressTypeNotSupported ∧
    ReplyCode.ofSpelling? "0x_8" = some .addressTypeNotSupported ∧
    ∃ out, Console.print 80 (replyText .addressTypeNotSupported) = .ok out ∧
      (reply { width := 80, time := "" } "0X_8").run.run { files := { working := [] } } =
        (.ok (), Job.shown out { files := { working := [] } }) := by
  have hs : ∀ x ∈ "0X_8".toList, x.toNat < 128 := by simp
  have hcode : ReplyCode.ofSpelling? "0X_8" = some .addressTypeNotSupported := by decide +kernel
  obtain ⟨hread, hshow, -, halike⟩ := reply_spelled { width := 80, time := "" } { files := { working := [] } } hs
  have hspells : Spells "0X_8" .addressTypeNotSupported := (hread _).1 hcode
  have hlower : ReplyCode.ofSpelling? "0x_8" = some .addressTypeNotSupported := by
    rw [halike "0x_8" rfl, hcode]
  exact ⟨hs, hspells, hlower, hshow _ hspells⟩

end CommandLine
end Socks5
