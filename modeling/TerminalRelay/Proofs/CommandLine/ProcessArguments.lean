import TerminalRelay.CommandLine.Mode
import TerminalRelay.Proofs.Pid
import TerminalRelay.Proofs.Text.Quoted

/-! What becomes of the argument that is to name a process. One that does is shown as it was given
but for leading zeros, and one that does not is reported on one line, from which it can be read
back. -/

namespace TerminalRelay.CommandLine

theorem readPid_of_parse {text : List Char} {outcome : Except PidFault Pid}
    (parsed : Pid.parse text = outcome) :
    readPid text = outcome.mapError (.invalidPid (String.ofList text)) := by
  rw [readPid, parsed]
  cases outcome <;> rfl

theorem readPid_accepts_iff {text : List Char} {pid : Pid} :
    readPid text = .ok pid ↔ Pid.parse text = .ok pid := by
  rw [readPid_of_parse rfl]
  cases Pid.parse text <;> simp [Except.mapError]

theorem readPid_rejects_iff {text : List Char} {fault : Fault} :
    readPid text = .error fault ↔
      ∃ reason, Pid.parse text = .error reason ∧ fault = .invalidPid (String.ofList text) reason := by
  rw [readPid_of_parse rfl]
  cases Pid.parse text <;> simp [Except.mapError, eq_comm]

/-- An argument that names a process is shown without its leading zeros, which names the same
process again. So no two processes are shown alike, and two arguments name the same one just if
they differ in nothing but the zeros that they begin with. -/
theorem named_process_shows_as_given {text : List Char} {pid : Pid}
    (accepted : readPid text = .ok pid) :
    (toString pid).toList = text.dropWhile (· == '0') ∧
    readPid (toString pid).toList = .ok pid ∧
    ∀ other otherPid, readPid other = .ok otherPid →
      (toString pid = toString otherPid ↔ pid = otherPid) ∧
      (pid = otherPid ↔ Text.ZerosApart text other) := by
  have parsed := readPid_accepts_iff.mp accepted
  rw [Pid.toList_toString]
  refine ⟨Pid.toDigits_of_parse parsed, readPid_accepts_iff.mpr (Pid.parse_toDigits pid), ?_⟩
  intro other otherPid too
  refine ⟨Pid.toString_injective.eq_iff, ?_⟩
  exact (Pid.zerosApart_iff parsed (readPid_accepts_iff.mp too)).symm

theorem padded_argument_shows_unpadded :
    readPid "00420".toList = .ok ⟨420, by decide, by decide⟩ ∧
    (toString (⟨420, by decide, by decide⟩ : Pid)).toList = "420".toList := by
  have accepted : readPid "00420".toList = .ok ⟨420, by decide, by decide⟩ := by decide
  exact ⟨accepted, (named_process_shows_as_given accepted).1⟩

def readReason (ending : List Char) : Option PidFault :=
  [.empty, .notNumeric, .outOfRange].find? fun reason : PidFault =>
    ending = ": ".toList ++ reason.message.toList

/-- Reads the report of an argument that names no process: the argument and what is wrong. -/
def readReport (report : String) : Option (List Char × PidFault) :=
  (Text.unquote (report.toList.drop "Invalid pid ".length)).bind fun (text, ending) =>
    (readReason ending).map fun reason => (text, reason)

theorem toList_report (text : List Char) (reason : PidFault) :
    (Fault.invalidPid (String.ofList text) reason).message.toList =
      "Invalid pid ".toList ++ (Text.quote text ++ (": ".toList ++ reason.message.toList)) := by
  have worded : (Fault.invalidPid (String.ofList text) reason).message =
      "Invalid pid " ++ String.ofList (Text.quote (String.ofList text).toList) ++ ": " ++
        reason.message := rfl
  rw [worded, String.toList_append, String.toList_append, String.toList_append,
    String.toList_ofList (l := text), String.toList_ofList (l := Text.quote text),
    List.append_assoc, List.append_assoc]

theorem readReport_report (text : List Char) (reason : PidFault) :
    readReport (Fault.invalidPid (String.ofList text) reason).message = some (text, reason) := by
  have start : "Invalid pid ".length = "Invalid pid ".toList.length := by
    rw [String.length_toList]
  have found : readReason (": ".toList ++ reason.message.toList) = some reason := by
    cases reason <;> decide
  rw [readReport, toList_report, start, List.drop_left, Text.unquote_quote, Option.bind_some]
  simp only [found, Option.map_some]

theorem report_inline (text : List Char) (reason : PidFault) :
    ∀ c ∈ (Fault.invalidPid (String.ofList text) reason).message.toList, Text.IsInline c := by
  have opening : ∀ c ∈ "Invalid pid ".toList, Text.isHidden c = false :=
    Text.shown_of_ascii (by decide)
  have ending : ∀ c ∈ ": ".toList ++ reason.message.toList, Text.isHidden c = false :=
    Text.shown_of_ascii (by cases reason <;> decide)
  intro c member
  apply Text.inline_of_shown
  rw [toList_report, List.mem_append, List.mem_append] at member
  rcases member with first | quoted | last
  · exact opening c first
  · exact Text.quote_shown quoted
  · exact ending c last

/-- A refused argument is reported safely and faithfully. The report is one line, without controls,
whatever the argument holds; the argument and the reason are read back from it, so that two
arguments are never reported alike. -/
theorem refused_argument_report_read_back {text : List Char} {fault : Fault}
    (refused : readPid text = .error fault) :
    (∀ c ∈ fault.message.toList, Text.IsInline c) ∧
    ∃ reason, Pid.parse text = .error reason ∧ fault = .invalidPid (String.ofList text) reason ∧
      readReport fault.message = some (text, reason) ∧
      ∀ other otherFault, readPid other = .error otherFault →
        otherFault.message = fault.message → other = text ∧ otherFault = fault := by
  obtain ⟨reason, parsed, same⟩ := readPid_rejects_iff.mp refused
  subst same
  refine ⟨report_inline text reason, reason, parsed, rfl, readReport_report text reason, ?_⟩
  intro other otherFault tooRefused alike
  obtain ⟨otherReason, -, otherSame⟩ := readPid_rejects_iff.mp tooRefused
  have readBack := readReport_report other otherReason
  rw [← otherSame, alike, readReport_report] at readBack
  cases readBack
  exact ⟨rfl, otherSame⟩

/-- Text that looks like the escapes in which it is reported. -/
theorem awkward_argument_read_back :
    ∃ fault, readPid "1\n\"\\u\x7ba\x7d".toList = .error fault ∧
      fault.message = "Invalid pid \"1\\n\\\"\\\\u\x7ba\x7d\": must be integer" ∧
      (∀ c ∈ fault.message.toList, Text.IsInline c) ∧
      readReport fault.message = some ("1\n\"\\u\x7ba\x7d".toList, .notNumeric) := by
  have refused : readPid "1\n\"\\u\x7ba\x7d".toList =
      .error (.invalidPid "1\n\"\\u\x7ba\x7d" .notNumeric) := by decide
  obtain ⟨line, reason, parsed, same, readBack, -⟩ := refused_argument_report_read_back refused
  refine ⟨_, refused, by decide, line, ?_⟩
  cases same
  exact readBack

end TerminalRelay.CommandLine
