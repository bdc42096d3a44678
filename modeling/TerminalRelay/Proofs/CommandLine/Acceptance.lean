import Mathlib.Data.List.Nodup
import Mathlib.Data.Set.List
import TerminalRelay.Proofs.CommandLine.Reading

/-! Which command lines are accepted, told by the letters of their flags and not by the reading:
the letters are those of options, each stands once, and a takeover does not stand beside a new
pty. What is then asked for is what the letters say, with the operands as they are. -/

namespace TerminalRelay.CommandLine

def optionLetters : List Char :=
  ['l', 'L', 's', 'T', 'V']

def lettersOf (argument : Bytes) : List Char :=
  ((Text.decode? argument).getD []).tail

/-- Flags that are accepted. -/
structure InOrder (flags : List Bytes) : Prop where
  clusters : ∀ argument ∈ flags, ∃ letters, Text.decode? argument = some ('-' :: letters) ∧
    ∀ c ∈ letters, c ∈ optionLetters
  once : (flags.flatMap lettersOf).Nodup
  peaceful : ¬ (occurs 'T' flags ∧ (occurs 'l' flags ∨ occurs 'L' flags))

theorem mem_optionLetters_iff {c : Char} : c ∈ optionLetters ↔ ∃ flag : Flag, flag.letter = c := by
  constructor
  · intro member
    simp only [optionLetters, List.mem_cons, List.not_mem_nil, or_false] at member
    rcases member with rfl | rfl | rfl | rfl | rfl
    · exact ⟨.openPty, rfl⟩
    · exact ⟨.redirect, rfl⟩
    · exact ⟨.forceStdio, rfl⟩
    · exact ⟨.steal, rfl⟩
    · exact ⟨.verbose, rfl⟩
  · rintro ⟨flag, rfl⟩
    cases flag <;> decide

theorem conflict?_eq_none_iff {given : List Flag} :
    conflict? given = none ↔
      ¬ (.steal ∈ given ∧ (.openPty ∈ given ∨ .redirect ∈ given)) := by
  have opening : (given.filter Flag.opens).isEmpty = false ↔
      .openPty ∈ given ∨ .redirect ∈ given := by
    rw [List.isEmpty_eq_false_iff_exists_mem]
    constructor
    · rintro ⟨flag, member⟩
      obtain ⟨present, opens⟩ := List.mem_filter.mp member
      cases flag with
      | openPty => exact .inl present
      | redirect => exact .inr present
      | _ => cases opens
    · rintro (present | present)
      · exact ⟨.openPty, List.mem_filter.mpr ⟨present, rfl⟩⟩
      · exact ⟨.redirect, List.mem_filter.mpr ⟨present, rfl⟩⟩
  rw [← opening, ← List.contains_iff_mem, conflict?]
  split
  · next both =>
    obtain ⟨steals, opens⟩ : given.contains .steal = true ∧
        (given.filter Flag.opens).isEmpty = false := by simpa using both
    refine ⟨fun unblamed => ?_, fun apart => absurd ⟨steals, opens⟩ apart⟩
    cases found : given.find? fun flag => flag.opens || flag = .steal with
    | none =>
      have missing := List.find?_eq_none.mp found .steal (List.contains_iff_mem.mp steals)
      exact absurd rfl missing
    | some first =>
      rw [found] at unblamed
      cases first <;> cases unblamed
  · next apart => exact ⟨fun _ both => apart (by simpa using both), fun _ => rfl⟩

theorem Flag.mark_injective : Function.Injective Flag.mark :=
  fun _ _ same => Flag.letter_injective (Mark.letter.inj same)

theorem marks_of_cluster {argument : Bytes} {cluster : List Flag}
    (isCluster : IsCluster argument cluster) : marks argument = cluster.map Flag.mark := by
  obtain ⟨some, decoded⟩ := isCluster
  obtain ⟨flag, others, rfl⟩ := List.exists_cons_of_ne_nil some
  rw [marks_of_letters decoded flag.letter_ne_dash]
  simp [Flag.mark]

theorem lettersOf_of_cluster {argument : Bytes} {cluster : List Flag}
    (isCluster : IsCluster argument cluster) : lettersOf argument = cluster.map Flag.letter := by
  rw [lettersOf, isCluster.2]
  rfl

section
variable {flags : List Bytes}

theorem given_of_clusters (clusters : ∀ argument ∈ flags, ∃ cluster, IsCluster argument cluster) :
    ∃ given : List Flag, flags.flatMap marks = given.map Flag.mark ∧
      flags.flatMap lettersOf = given.map Flag.letter := by
  induction flags with
  | nil => exact ⟨[], rfl, rfl⟩
  | cons argument flags ih =>
    obtain ⟨⟨cluster, isCluster⟩, others⟩ := List.forall_mem_cons.mp clusters
    obtain ⟨given, read, letters⟩ := ih others
    refine ⟨cluster ++ given, ?_, ?_⟩
    · rw [List.flatMap_cons, marks_of_cluster isCluster, read, List.map_append]
    · rw [List.flatMap_cons, lettersOf_of_cluster isCluster, letters, List.map_append]

theorem letters_of_read {given : List Flag} (areFlags : ∀ argument ∈ flags, isFlag argument)
    (read : flags.flatMap marks = given.map Flag.mark) :
    flags.flatMap lettersOf = given.map Flag.letter := by
  have clusters : ∀ argument ∈ flags, ∃ cluster, IsCluster argument cluster := by
    intro argument member
    obtain ⟨cluster, isCluster, -⟩ := cluster_of_read read member (areFlags argument member)
    exact ⟨cluster, isCluster⟩
  obtain ⟨same, marked, letters⟩ := given_of_clusters clusters
  have agree : same = given :=
    List.map_injective_iff.mpr Flag.mark_injective (marked.symm.trans read)
  rw [letters, agree]

end

theorem cluster_of_letters {argument : Bytes} {letters : List Char} (flag : isFlag argument)
    (decoded : Text.decode? argument = some ('-' :: letters))
    (all : ∀ c ∈ letters, c ∈ optionLetters) : ∃ cluster, IsCluster argument cluster := by
  have known : letters ∈ Set.range (List.map Flag.letter) := by
    rw [Set.range_list_map]
    exact fun c stands => mem_optionLetters_iff.mp (all c stands)
  obtain ⟨cluster, rfl⟩ := known
  obtain ⟨c, text, long⟩ := isFlag_eq_true_iff.mp flag
  refine ⟨cluster, ?_, decoded⟩
  rintro rfl
  cases decoded.symm.trans long

theorem letters_of_cluster {argument : Bytes} {cluster : List Flag}
    (isCluster : IsCluster argument cluster) :
    ∃ letters, Text.decode? argument = some ('-' :: letters) ∧
      ∀ c ∈ letters, c ∈ optionLetters := by
  refine ⟨_, isCluster.2, fun c stands => ?_⟩
  obtain ⟨flag, -, same⟩ := List.mem_map.mp stands
  exact mem_optionLetters_iff.mpr ⟨flag, same⟩

section
variable {flags : List Bytes} {given : List Flag}
  (areFlags : ∀ argument ∈ flags, isFlag argument)
  (read : flags.flatMap marks = given.map Flag.mark)
include areFlags read

/-- Flags that are read are in order just if nothing is given twice and nothing that is given
excludes anything else that is. -/
theorem inOrder_iff_of_read : InOrder flags ↔ given.Nodup ∧ conflict? given = none := by
  have once : (flags.flatMap lettersOf).Nodup ↔ given.Nodup := by
    rw [letters_of_read areFlags read, List.nodup_map_iff fun _ _ => Flag.letter_injective]
  have peaceful : conflict? given = none ↔
      ¬ (occurs 'T' flags ∧ (occurs 'l' flags ∨ occurs 'L' flags)) := by
    rw [conflict?_eq_none_iff]
    simp only [mem_given_iff read areFlags]
    rfl
  constructor
  · intro inOrder
    exact ⟨once.mp inOrder.once, peaceful.mpr inOrder.peaceful⟩
  · rintro ⟨new, apart⟩
    refine ⟨fun argument member => ?_, once.mpr new, peaceful.mp apart⟩
    obtain ⟨cluster, isCluster, -⟩ := cluster_of_read read member (areFlags argument member)
    exact letters_of_cluster isCluster

theorem ofFlags_of_read (operands : List Bytes) : Options.ofFlags given operands = {
    openPty := occurs 'l' flags
    redirect := occurs 'L' flags
    forceStdio := occurs 's' flags
    steal := occurs 'T' flags
    verbose := occurs 'V' flags
    operands := operands } := by
  have agree : ∀ flag : Flag, given.contains flag = occurs flag.letter flags := fun flag => by
    rw [Bool.eq_iff_iff, ← mem_given_iff read areFlags, List.contains_iff_mem]
  simp only [Options.ofFlags, agree]
  rfl

end

/-- A command line is accepted just if its flags are in order, and then each option is on just if
its letter stands among them, and the operands are those of the line. -/
theorem command_line_accepted_iff {arguments : List Bytes} {options : Options} :
    parse arguments = .ok options ↔
      InOrder (hoisted arguments) ∧ options = {
        openPty := occurs 'l' (hoisted arguments)
        redirect := occurs 'L' (hoisted arguments)
        forceStdio := occurs 's' (hoisted arguments)
        steal := occurs 'T' (hoisted arguments)
        verbose := occurs 'V' (hoisted arguments)
        operands := operands arguments } := by
  have areFlags : ∀ argument ∈ hoisted arguments, isFlag argument :=
    fun argument member => (of_mem_divide member).1
  rw [parse_eq, readOptions_eq_ok_iff]
  constructor
  · rintro ⟨given, read, once, peaceful, rfl⟩
    exact ⟨(inOrder_iff_of_read areFlags read).mpr ⟨once, peaceful⟩, ofFlags_of_read areFlags read _⟩
  · rintro ⟨inOrder, rfl⟩
    have clusters : ∀ argument ∈ hoisted arguments, ∃ cluster, IsCluster argument cluster := by
      intro argument member
      obtain ⟨letters, decoded, all⟩ := inOrder.clusters argument member
      exact cluster_of_letters (areFlags argument member) decoded all
    obtain ⟨given, read, -⟩ := given_of_clusters clusters
    obtain ⟨once, peaceful⟩ := (inOrder_iff_of_read areFlags read).mp inOrder
    exact ⟨given, read, once, peaceful, (ofFlags_of_read areFlags read _).symm⟩

end TerminalRelay.CommandLine
