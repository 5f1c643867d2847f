import Mathlib.Algebra.GroupWithZero.Nat
import Mathlib.Data.List.Forall2
import PushLedger.Proofs.Commands

/-!
# The lines of a report

A report is read line by line. After the version and the summary there is a line for each target, as
long as no endpoint and no owner contains a line break; every break in them makes one line more.

A line does not always tell its target. The endpoint goes up to a mark that an endpoint can contain
as well, and a missing owner is shown by a dash that can be the name of an owner. It is said here
which targets have the same line, and for which targets a report tells the endpoints and the owners.
-/

namespace PushLedger

namespace Command

/-! ## Lines -/

/-- The line breaks in a text. -/
def breaks (text : String) : Nat := text.toList.count '\n'

/-- The lines that a reader finds in a text: the pieces in front of its line breaks. What comes
after the last break is no line. -/
def linesOf (text : String) : List String :=
  (text.toList.splitOn '\n').dropLast.map String.ofList

/-- Lines are added to the end of a text. -/
theorem foldl_lines (lines : List String) (text : String) :
    lines.foldl (fun text line => text ++ line ++ "\n") text = text ++ textOf lines := by
  unfold textOf
  induction lines generalizing text with
  | nil => exact (String.append_empty).symm
  | cons next rest inductionHypothesis =>
    rw [List.foldl_cons, List.foldl_cons, inductionHypothesis, inductionHypothesis ("" ++ _ ++ _)]
    simp [String.append_assoc]

/-- The first line comes first, with its break. -/
theorem textOf_cons (line : String) (lines : List String) :
    textOf (line :: lines) = line ++ "\n" ++ textOf lines := by
  rw [textOf, List.foldl_cons, foldl_lines, String.empty_append]

/-- Lines that are put together are texts that are put together. -/
theorem textOf_append (lines others : List String) :
    textOf (lines ++ others) = textOf lines ++ textOf others := by
  induction lines with
  | nil => exact (String.empty_append).symm
  | cons line rest inductionHypothesis =>
    rw [List.cons_append, textOf_cons, textOf_cons, inductionHypothesis]
    simp only [String.append_assoc]

/-- Breaks are counted piece by piece. -/
theorem breaks_append (text other : String) :
    breaks (text ++ other) = breaks text + breaks other := by
  rw [breaks, String.toList_append, List.count_append]
  rfl

/-- Every line brings a break beside its own. -/
theorem breaks_textOf (lines : List String) :
    breaks (textOf lines) = lines.length + (lines.map breaks).sum := by
  induction lines with
  | nil => rfl
  | cons line rest inductionHypothesis =>
    have single : breaks "\n" = 1 := by decide
    rw [textOf_cons, breaks_append, breaks_append, single, inductionHypothesis, List.length_cons,
      List.map_cons, List.sum_cons]
    omega

/-- There are as many lines as breaks. -/
theorem length_linesOf (text : String) : (linesOf text).length = breaks text := by
  have pieces (chars : List Char) :
      (chars.splitOn '\n').length = chars.count '\n' + 1 := by
    induction chars with
    | nil => rfl
    | cons c rest inductionHypothesis =>
      rw [List.splitOn_cons_eq_if_modifyHead, List.count_cons]
      split <;> simp [inductionHypothesis]
  rw [linesOf, List.length_map, List.length_dropLast, pieces, Nat.add_sub_cancel]
  rfl

/-- A line without a break in it is the first one that is found. -/
theorem linesOf_cons (line text : String) (unbroken : breaks line = 0) :
    linesOf (line ++ "\n" ++ text) = line :: linesOf text := by
  have absent : '\n' ∉ line.toList := List.count_eq_zero.mp unbroken
  have ended : (line ++ "\n" ++ text).toList = line.toList ++ '\n' :: text.toList := by simp
  rw [linesOf, ended, List.splitOn_append_cons_self_of_not_mem absent,
    List.dropLast_cons_of_ne_nil (List.splitOn_ne_nil _ _), List.map_cons, String.ofList_toList]
  rfl

/-- The lines of a text are found again exactly if none of them has a break in it. -/
theorem linesOf_textOf_iff (lines : List String) :
    linesOf (textOf lines) = lines ↔ ∀ line ∈ lines, breaks line = 0 := by
  constructor
  · intro found line member
    have counted := length_linesOf (textOf lines)
    rw [found, breaks_textOf] at counted
    have none : (lines.map breaks).sum = 0 := by omega
    exact List.sum_eq_zero_iff_forall_eq_nat.mp none _ (List.mem_map_of_mem member)
  · intro unbroken
    induction lines with
    | nil => rfl
    | cons line rest inductionHypothesis =>
      obtain ⟨first, others⟩ := List.forall_mem_cons.mp unbroken
      rw [textOf_cons, linesOf_cons line _ first, inductionHypothesis others]

/-! ## The line of a target -/

/-- What stands between the endpoint and the owner. -/
def ownerMark : String := " user_id="

/-- The owner as the report shows it. -/
def shownOwner (target : PushTarget) : String := target.userId.getD noOwner

/-- The line breaks that a target brings into its line. -/
def targetBreaks (target : PushTarget) : Nat := breaks target.endpoint + breaks (shownOwner target)

/-- The pieces of the line of a target. -/
theorem targetLine_eq (target : PushTarget) : targetLine target =
    "warn endpoint=" ++ target.endpoint ++ ownerMark ++ shownOwner target := rfl

/-- The breaks in the line of a target are those of the target. -/
theorem breaks_targetLine (target : PushTarget) :
    breaks (targetLine target) = targetBreaks target := by
  have front : breaks "warn endpoint=" = 0 := by decide
  have between : breaks ownerMark = 0 := by decide
  rw [targetLine_eq, breaks_append, breaks_append, breaks_append, front, between, Nat.zero_add,
    Nat.add_zero]
  rfl

/-- The endpoint of the other target goes on past a mark where that of the target ends, and the
target shows the rest of it as part of its owner. -/
def RunsInto (target other : PushTarget) : Prop :=
  ∃ between, other.endpoint = target.endpoint ++ ownerMark ++ between ∧
    shownOwner target = between ++ ownerMark ++ shownOwner other

/-- Owners that are shown alike: they are the same, or one is missing and the other is called as a
missing one is shown. -/
def OwnersAlike (owner other : Option String) : Prop :=
  owner = other ∨ (owner = none ∧ other = some noOwner) ∨ (owner = some noOwner ∧ other = none)

/-- Targets that look alike in a report. -/
def Alike (target other : PushTarget) : Prop :=
  (target.endpoint = other.endpoint ∧ OwnersAlike target.userId other.userId) ∨
    RunsInto target other ∨ RunsInto other target

/-- Owners are shown by the same text exactly if they are shown alike. -/
theorem shownOwner_eq_iff (target other : PushTarget) :
    shownOwner target = shownOwner other ↔ OwnersAlike target.userId other.userId := by
  unfold shownOwner OwnersAlike
  cases target.userId <;> cases other.userId <;> simp [eq_comm]

/-- If a mark that starts with a character of its own comes after some text, and the same text
starts with a mark, then nothing comes before the mark, or what comes before it starts with a mark.
-/
theorem mark_append_eq_iff {c : Char} {rest : List Char} (once : c ∉ rest)
    (before owner other : List Char) :
    (c :: rest) ++ owner = before ++ ((c :: rest) ++ other) ↔
      (before = [] ∧ owner = other) ∨
        ∃ between, before = (c :: rest) ++ between ∧ owner = between ++ ((c :: rest) ++ other) := by
  rw [List.append_eq_append_iff]
  constructor
  · rintro (⟨between, longer, owned⟩ | ⟨left, shorter, continued⟩)
    · exact .inr ⟨between, longer, owned⟩
    · cases before with
      | nil =>
        obtain rfl : c :: rest = left := shorter
        exact .inl ⟨rfl, (List.append_cancel_left continued).symm⟩
      | cons first more =>
        obtain ⟨rfl, split⟩ := List.cons.inj shorter
        cases left with
        | nil =>
          obtain rfl : rest = more := split.trans (List.append_nil more)
          exact .inr ⟨[], (List.append_nil _).symm, continued.symm⟩
        | cons next last =>
          -- the mark would start a second time within itself
          obtain ⟨rfl, _⟩ := List.cons.inj continued
          exact absurd (split ▸ List.mem_append_right _ List.mem_cons_self) once
  · rintro (⟨rfl, rfl⟩ | ⟨between, rfl, rfl⟩)
    · exact .inr ⟨c :: rest, rfl, rfl⟩
    · exact .inl ⟨between, rfl, rfl⟩

/-- Where the endpoint of the other target starts with that of the target, the rests of their lines
are the same exactly if both show the same or the target runs into the other one. -/
theorem runsInto_iff (target other : PushTarget) :
    (∃ more, other.endpoint.toList = target.endpoint.toList ++ more ∧
      ownerMark.toList ++ (shownOwner target).toList =
        more ++ (ownerMark.toList ++ (shownOwner other).toList)) ↔
      (target.endpoint = other.endpoint ∧ OwnersAlike target.userId other.userId) ∨
        RunsInto target other := by
  have once : ' ' ∉ "user_id=".toList := by decide
  have mark : ownerMark.toList = ' ' :: "user_id=".toList := by decide
  rw [← shownOwner_eq_iff, mark]
  constructor
  · rintro ⟨more, longer, same⟩
    rcases (mark_append_eq_iff once more _ _).mp same with ⟨rfl, owned⟩ | ⟨between, rfl, owned⟩
    · rw [List.append_nil] at longer
      exact .inl ⟨String.toList_inj.mp longer.symm, String.toList_inj.mp owned⟩
    · refine .inr ⟨String.ofList between, ?_, ?_⟩
      · simpa [← String.toList_inj, mark] using longer
      · simpa [← String.toList_inj, mark] using owned
  · rintro (⟨named, owned⟩ | ⟨between, longer, owned⟩)
    · exact ⟨[], by rw [named, List.append_nil], by rw [owned, List.nil_append]⟩
    · refine ⟨' ' :: "user_id=".toList ++ between.toList, ?_, ?_⟩
      · simp [longer, mark]
      · simp [owned, mark]

/-- Targets have the same line exactly if they look alike. -/
theorem targetLine_eq_iff (target other : PushTarget) :
    targetLine target = targetLine other ↔ Alike target other := by
  have pieces (t : PushTarget) : (targetLine t).toList = "warn endpoint=".toList ++
      (t.endpoint.toList ++ (ownerMark.toList ++ (shownOwner t).toList)) := by
    rw [targetLine_eq]
    simp only [String.toList_append, List.append_assoc]
  have mirrored :
      OwnersAlike other.userId target.userId ↔ OwnersAlike target.userId other.userId := by
    rw [← shownOwner_eq_iff, ← shownOwner_eq_iff, eq_comm]
  rw [← String.toList_inj, pieces, pieces, List.append_right_inj, List.append_eq_append_iff]
  -- either endpoint may be the shorter one
  constructor
  · rintro (⟨more, longer, same⟩ | ⟨more, longer, same⟩)
    · rcases (runsInto_iff target other).mp ⟨more, longer, same⟩ with equal | runs
      · exact .inl equal
      · exact .inr (.inl runs)
    · rcases (runsInto_iff other target).mp ⟨more, longer, same⟩ with ⟨named, owned⟩ | runs
      · exact .inl ⟨named.symm, mirrored.mp owned⟩
      · exact .inr (.inr runs)
  · rintro (equal | runs | runs)
    · exact .inl ((runsInto_iff target other).mpr (.inl equal))
    · exact .inl ((runsInto_iff target other).mpr (.inr runs))
    · exact .inr ((runsInto_iff other target).mpr (.inr runs))

/-- A target whose line tells the endpoint and the owner: it has no line break, the mark is not in
the endpoint, and the owner is not called as a missing one is shown. -/
structure Plain (target : PushTarget) : Prop where
  unbroken : targetBreaks target = 0
  unmarked : ∀ before after, target.endpoint ≠ before ++ ownerMark ++ after
  named : target.userId ≠ some noOwner

/-- An endpoint without a blank does not contain the mark. -/
theorem unmarked_of_no_blank (endpoint : String) (solid : ' ' ∉ endpoint.toList)
    (before after : String) : endpoint ≠ before ++ ownerMark ++ after := by
  rintro rfl
  have blank : ' ' ∈ ownerMark.toList := by decide
  exact solid (by simp [blank])

/-- Plain targets that look alike have the same endpoint and the same owner. -/
theorem Plain.eq_of_alike {target other : PushTarget} (plain : Plain target) (clear : Plain other)
    (alike : Alike target other) :
    target.endpoint = other.endpoint ∧ target.userId = other.userId := by
  rcases alike with ⟨named, same | ⟨_, dashed⟩ | ⟨dashed, _⟩⟩ | ⟨between, longer, _⟩ |
    ⟨between, longer, _⟩
  · exact ⟨named, same⟩
  · exact absurd dashed clear.named
  · exact absurd dashed plain.named
  · exact absurd longer (clear.unmarked _ _)
  · exact absurd longer (plain.unmarked _ _)

/-- Every target without a line break has the line of a plain one, so a line cannot tell more
targets than the plain ones. -/
theorem exists_plain (target : PushTarget) (unbroken : targetBreaks target = 0) :
    ∃ other, Plain other ∧ targetLine other = targetLine target := by
  -- the mark that ends the endpoint is moved to the front, up to the first one
  induction size : target.endpoint.length using Nat.strong_induction_on generalizing target with
  | _ n inductionHypothesis =>
  by_cases marked : ∃ before after, target.endpoint = before ++ ownerMark ++ after
  · obtain ⟨before, after, split⟩ := marked
    obtain ⟨moved, named, same⟩ : ∃ moved : PushTarget,
        moved.endpoint = before ∧ targetLine moved = targetLine target := by
      refine ⟨{ target with
        endpoint := before
        userId := some (after ++ ownerMark ++ shownOwner target) }, rfl, ?_⟩
      exact (targetLine_eq_iff _ _).mpr (.inr (.inl ⟨after, split, rfl⟩))
    have shorter : moved.endpoint.length < n := by
      have mark : ownerMark.length = 9 := by decide
      rw [← size, named, split, String.length_append, String.length_append, mark]
      omega
    have still : targetBreaks moved = 0 := by
      rw [← breaks_targetLine, same, breaks_targetLine, unbroken]
    obtain ⟨other, plain, line⟩ := inductionHypothesis _ shorter moved still rfl
    exact ⟨other, plain, line.trans same⟩
  · have unmarked : ∀ before after, target.endpoint ≠ before ++ ownerMark ++ after :=
      fun before after split => marked ⟨before, after, split⟩
    by_cases dashed : target.userId = some noOwner
    · have same : targetLine { target with userId := none } = targetLine target :=
        (targetLine_eq_iff _ _).mpr (.inl ⟨rfl, .inr (.inl ⟨rfl, dashed⟩)⟩)
      refine ⟨{ target with userId := none }, ⟨?_, unmarked, nofun⟩, same⟩
      rw [← breaks_targetLine, same, breaks_targetLine, unbroken]
    · exact ⟨target, ⟨unbroken, unmarked, dashed⟩, rfl⟩

/-! ## Reports -/

/-- A number has no line break in it, and no blank. -/
theorem not_mem_digits (n : Nat) {c : Char} (noDigit : c.isDigit = false) :
    c ∉ Nat.toDigits 10 n := by
  intro member
  have digit := Nat.isDigit_of_mem_toDigits (by decide) (by decide) member
  exact nomatch digit.symm.trans noDigit

/-- The pieces of the summary. -/
theorem summaryLine_eq (report : SweepOutcome) : summaryLine report =
    "sweep expired_rows=" ++ toString report.expired ++ " warned_rows=" ++ toString report.warned ++
      " " ++ ("targets=" ++ toString report.targets.length) := rfl

/-- The characters of the summary. -/
theorem toList_summaryLine (report : SweepOutcome) : (summaryLine report).toList =
    "sweep expired_rows=".toList ++ (Nat.toDigits 10 report.expired ++ ' ' ::
      ("warned_rows=".toList ++ (Nat.toDigits 10 report.warned ++ ' ' ::
        ("targets=".toList ++ Nat.toDigits 10 report.targets.length)))) := by
  have digits (n : Nat) : (toString n).toList = Nat.toDigits 10 n := by simp
  have second : " warned_rows=".toList = ' ' :: "warned_rows=".toList := by decide
  have third : " ".toList = [' '] := by decide
  simp only [summaryLine_eq, String.toList_append, digits, second, third, List.append_assoc,
    List.cons_append, List.nil_append]

/-- Texts that go up to the first of a character are the same if what is around it is. -/
theorem append_cons_inj {c : Char} {text other rest more : List Char} (absent : c ∉ text)
    (missing : c ∉ other) :
    text ++ c :: rest = other ++ c :: more ↔ text = other ∧ rest = more := by
  constructor
  · intro same
    have pieces := congrArg (List.splitOn c) same
    rw [List.splitOn_append_cons_self_of_not_mem absent,
      List.splitOn_append_cons_self_of_not_mem missing] at pieces
    obtain ⟨rfl, _⟩ := List.cons.inj pieces
    exact ⟨rfl, (List.cons.inj (List.append_cancel_left same)).2⟩
  · rintro ⟨rfl, rfl⟩
    rfl

/-- The summary tells the three numbers. -/
theorem summaryLine_inj (report other : SweepOutcome) : summaryLine report = summaryLine other ↔
    report.expired = other.expired ∧ report.warned = other.warned ∧
      report.targets.length = other.targets.length := by
  have apart (n : Nat) : ' ' ∉ Nat.toDigits 10 n := not_mem_digits n rfl
  have told (m n : Nat) : Nat.toDigits 10 m = Nat.toDigits 10 n ↔ m = n := by
    constructor
    · intro same
      rw [← @Nat.ofDigitChars_ten_toDigits m, same, Nat.ofDigitChars_ten_toDigits]
    · rintro rfl
      rfl
  rw [← String.toList_inj, toList_summaryLine, toList_summaryLine, List.append_right_inj,
    append_cons_inj (apart _) (apart _), List.append_right_inj, append_cons_inj (apart _) (apart _),
    List.append_right_inj, told, told, told]

/-- The summary is one line. -/
theorem breaks_summaryLine (report : SweepOutcome) : breaks (summaryLine report) = 0 := by
  have number (n : Nat) : breaks (toString n) = 0 := by
    refine List.count_eq_zero.mpr ?_
    simpa using not_mem_digits n rfl
  simp only [summaryLine_eq, breaks_append, number]
  decide

/-- A report starts with the lines of the version and the summary. -/
theorem linesOf_report (report : SweepOutcome) (lines : List String) :
    linesOf (textOf (versionLine :: summaryLine report :: lines)) =
      versionLine :: summaryLine report :: linesOf (textOf lines) := by
  have version : breaks versionLine = 0 := by decide
  rw [textOf_cons, linesOf_cons _ _ version, textOf_cons,
    linesOf_cons _ _ (breaks_summaryLine report)]

section Targets

variable (targets : List PushTarget)

/-- The lines about targets are as many as the targets and their breaks. -/
theorem length_targetLines : (linesOf (textOf (targets.map targetLine))).length =
    targets.length + (targets.map targetBreaks).sum := by
  have counted : targets.map (breaks ∘ targetLine) = targets.map targetBreaks :=
    List.map_congr_left fun target _ => breaks_targetLine target
  rw [length_linesOf, breaks_textOf, List.length_map, List.map_map, counted]

/-- Every target has a line of its own exactly if there is no break in them. -/
theorem targetLines_iff : linesOf (textOf (targets.map targetLine)) = targets.map targetLine ↔
    ∀ target ∈ targets, targetBreaks target = 0 := by
  rw [linesOf_textOf_iff, List.forall_mem_map]
  simp only [breaks_targetLine]

/-- Targets have the same lines, one by one, exactly if they look alike. -/
theorem map_targetLine_iff (others : List PushTarget) :
    targets.map targetLine = others.map targetLine ↔ List.Forall₂ Alike targets others := by
  rw [← List.forall₂_eq_eq_eq, List.forall₂_map_left_iff, List.forall₂_map_right_iff]
  simp only [targetLine_eq_iff]

end Targets

/-- If there is no break in the targets of a report, another one is the same text exactly if it has
the same numbers and its targets look alike, one by one. -/
theorem report_eq_iff (report other : SweepOutcome)
    (unbroken : ∀ target ∈ report.targets, targetBreaks target = 0) :
    textOf (versionLine :: summaryLine report :: report.targets.map targetLine) =
        textOf (versionLine :: summaryLine other :: other.targets.map targetLine) ↔
      report.expired = other.expired ∧ report.warned = other.warned ∧
        List.Forall₂ Alike report.targets other.targets := by
  constructor
  · intro same
    have lines := congrArg linesOf same
    rw [linesOf_report, linesOf_report] at lines
    obtain ⟨sums, rest⟩ := List.cons.inj (List.cons.inj lines).2
    obtain ⟨expired, warned, count⟩ := (summaryLine_inj _ _).mp sums
    have single := (targetLines_iff report.targets).mpr unbroken
    -- the number of targets is told, so there is no room for a break in the other ones
    have lengths := congrArg List.length rest
    rw [single, List.length_map, length_targetLines] at lengths
    have none : (other.targets.map targetBreaks).sum = 0 := by omega
    have whole := (targetLines_iff other.targets).mpr fun target member =>
      List.sum_eq_zero_iff_forall_eq_nat.mp none _ (List.mem_map_of_mem member)
    rw [single, whole] at rest
    exact ⟨expired, warned, (map_targetLine_iff _ _).mp rest⟩
  · rintro ⟨expired, warned, alike⟩
    have sums := (summaryLine_inj _ _).mpr ⟨expired, warned, alike.length_eq⟩
    rw [sums, (map_targetLine_iff _ _).mpr alike]

/-- Plain targets that look alike, one by one, have the same endpoints and owners. -/
theorem alike_iff_of_plain (targets others : List PushTarget)
    (plain : ∀ target ∈ targets, Plain target) (clear : ∀ target ∈ others, Plain target) :
    List.Forall₂ Alike targets others ↔
      targets.map (fun target => (target.endpoint, target.userId)) =
        others.map fun target => (target.endpoint, target.userId) := by
  rw [← List.forall₂_eq_eq_eq, List.forall₂_map_left_iff, List.forall₂_map_right_iff]
  constructor
  · intro alike
    induction alike with
    | nil => exact .nil
    | cons head tail inductionHypothesis =>
      obtain ⟨first, rest⟩ := List.forall_mem_cons.mp plain
      obtain ⟨next, more⟩ := List.forall_mem_cons.mp clear
      exact .cons (Prod.ext_iff.mpr (first.eq_of_alike next head)) (inductionHypothesis rest more)
  · intro same
    refine same.imp ?_
    intro target other equal
    obtain ⟨named, owned⟩ := Prod.ext_iff.mp equal
    exact .inl ⟨named, .inl owned⟩

/-! ## Runs -/

/-- The command gets as far as sweeping a store, and this is the outcome of the sweep. -/
def Sweeps (arguments : List String) (s : Surroundings) (report : SweepOutcome) : Prop :=
  ∃ configuration logger disk store opened events,
    Ready arguments s configuration logger disk ∧
    FileStore.openAt disk s.working configuration.path = (.ok store, opened, events) ∧
    (store.sweep configuration.sweep.warning configuration.sweep.expiry s.now opened).1.result =
      .ok report

section Runs

variable {arguments : List String} {s : Surroundings}

/-- The command goes on with one configuration, one log and one disk. -/
theorem Ready.unique {configuration other : Configuration} {logger log : Logger} {disk d : Disk}
    (ready : Ready arguments s configuration logger disk) (again : Ready arguments s other log d) :
    configuration = other ∧ logger = log ∧ disk = d := by
  obtain ⟨⟨directory, parsed, configured⟩, _⟩ := ready
  obtain ⟨⟨folder, reparsed, reconfigured⟩, _⟩ := again
  obtain ⟨rfl, rfl⟩ := Arguments.mk.inj (Except.ok.inj (parsed.symm.trans reparsed))
  cases directory with
  | none =>
    obtain ⟨rfl, rfl⟩ := configured
    obtain ⟨rfl, rfl⟩ := reconfigured
    exact ⟨rfl, rfl, rfl⟩
  | some directory =>
    obtain ⟨_, same⟩ := Prod.mk.inj (configured.symm.trans reconfigured)
    obtain ⟨rfl, rfl⟩ := Prod.mk.inj same
    exact ⟨rfl, rfl, rfl⟩

/-- Once a store is opened, the outcome is that of its sweep. -/
theorem sweeps_iff {configuration : Configuration} {logger : Logger} {disk opened : Disk}
    {store : FileStore} {events : List Event} {report : SweepOutcome}
    (ready : Ready arguments s configuration logger disk)
    (done : FileStore.openAt disk s.working configuration.path = (.ok store, opened, events)) :
    Sweeps arguments s report ↔
      (store.sweep configuration.sweep.warning configuration.sweep.expiry s.now opened).1.result =
        .ok report := by
  constructor
  · rintro ⟨_, _, _, _, _, _, again, redone, swept⟩
    obtain ⟨rfl, rfl, rfl⟩ := ready.unique again
    obtain ⟨same, rest⟩ := Prod.mk.inj (done.symm.trans redone)
    obtain rfl := Except.ok.inj same
    obtain ⟨rfl, rfl⟩ := Prod.mk.inj rest
    exact swept
  · intro swept
    exact ⟨_, _, _, _, _, _, ready, done, swept⟩

/-- A command sweeps at most once. -/
theorem Sweeps.unique {report other : SweepOutcome} (sweeps : Sweeps arguments s report)
    (again : Sweeps arguments s other) : report = other := by
  obtain ⟨_, _, _, _, _, _, ready, done, swept⟩ := sweeps
  exact Except.ok.inj (swept.symm.trans ((sweeps_iff ready done).mp again))

/-- Either the command fails without having swept, or it sweeps a store and reports the outcome. -/
theorem run_cases (arguments : List String) (s : Surroundings) :
    ((run arguments s).exitCode = 1 ∧ ∀ report, ¬ Sweeps arguments s report) ∨
    ∃ report, Sweeps arguments s report ∧ (run arguments s).exitCode = 0 ∧
      (run arguments s).output =
        textOf (versionLine :: summaryLine report :: report.targets.map targetLine) := by
  by_cases inOrder : ∃ configuration logger disk, Ready arguments s configuration logger disk
  · obtain ⟨configuration, logger, disk, ready⟩ := inOrder
    rw [ready.run_eq]
    rcases FileStore.openAt_cases disk s.working configuration.path with
      ⟨fault, left, events, failed, _⟩ | ⟨store, opened, events, done, _, _, places⟩
    · left
      obtain ⟨failure, _⟩ := sweepStore_unopened configuration { s with disk } logger failed
      refine ⟨failure, ?_⟩
      rintro report ⟨_, _, _, _, _, _, again, done, _⟩
      obtain ⟨rfl, rfl, rfl⟩ := ready.unique again
      exact nomatch failed.symm.trans done
    · have saved : ∀ place, store.place = some place →
          opened.database? place = some store.database := by
        intro place named
        rw [places place, if_pos named]
      obtain ⟨fails, succeeds⟩ :=
        sweepStore_opened configuration { s with disk } logger done saved
      cases swept : (store.sweep configuration.sweep.warning configuration.sweep.expiry s.now
          opened).1.result with
      | error fault =>
        left
        refine ⟨(fails fault swept).1, ?_⟩
        intro report sweeps
        exact nomatch swept.symm.trans ((sweeps_iff ready done).mp sweeps)
      | ok report =>
        right
        obtain ⟨_, success, printed, _⟩ := succeeds report swept
        exact ⟨report, (sweeps_iff ready done).mpr swept, success, printed⟩
  · left
    refine ⟨(untouched_of_unready arguments s ?_).failed, ?_⟩
    · intro configuration logger disk ready
      exact inOrder ⟨configuration, logger, disk, ready⟩
    · rintro report ⟨configuration, logger, disk, _, _, _, ready, _⟩
      exact inOrder ⟨configuration, logger, disk, ready⟩

/-- A command that sweeps a store succeeds and reports the outcome. -/
theorem Sweeps.reported {report : SweepOutcome} (sweeps : Sweeps arguments s report) :
    (run arguments s).exitCode = 0 ∧ (run arguments s).output =
      textOf (versionLine :: summaryLine report :: report.targets.map targetLine) := by
  rcases run_cases arguments s with ⟨_, never⟩ | ⟨told, again, success, printed⟩
  · exact absurd sweeps (never report)
  · obtain rfl := sweeps.unique again
    exact ⟨success, printed⟩

end Runs

/-- A command that succeeds has swept a store, once, and prints the version, the summary, and the
text of the targets. In this text there are as many lines as targets, and one more for each line
break in their endpoints and owners; so each target has a line of its own exactly if there is no
such break. Then two commands print the same exactly if the numbers are the same and the targets
look alike, one by one. If the targets are plain, this means that the endpoints and owners are the
same; and beyond the plain targets nothing can be told, for every line without a break is that of a
plain target. -/
theorem run_report (arguments : List String) (s : Surroundings) :
    ((run arguments s).exitCode = 0 → ∃! report, Sweeps arguments s report) ∧
    (∀ report, Sweeps arguments s report →
      (run arguments s).exitCode = 0 ∧
      (run arguments s).output =
        textOf [versionLine, summaryLine report] ++ textOf (report.targets.map targetLine) ∧
      (linesOf (run arguments s).output).take 2 = [versionLine, summaryLine report] ∧
      ((linesOf (run arguments s).output).drop 2).length =
        report.targets.length + (report.targets.map targetBreaks).sum ∧
      ((linesOf (run arguments s).output).drop 2 = report.targets.map targetLine ↔
        ∀ target ∈ report.targets, targetBreaks target = 0)) ∧
    (∀ report others t other, Sweeps arguments s report → Sweeps others t other →
      ((∀ target ∈ report.targets, targetBreaks target = 0) →
        ((run arguments s).output = (run others t).output ↔
          report.expired = other.expired ∧ report.warned = other.warned ∧
            List.Forall₂ Alike report.targets other.targets)) ∧
      ((∀ target ∈ report.targets, Plain target) → (∀ target ∈ other.targets, Plain target) →
        ((run arguments s).output = (run others t).output ↔
          report.expired = other.expired ∧ report.warned = other.warned ∧
            report.targets.map (fun target => (target.endpoint, target.userId)) =
              other.targets.map fun target => (target.endpoint, target.userId)))) ∧
    ∀ target, targetBreaks target = 0 →
      ∃ other, Plain other ∧ targetLine other = targetLine target := by
  refine ⟨?_, ?_, ?_, exists_plain⟩
  · intro success
    rcases run_cases arguments s with ⟨failure, _⟩ | ⟨report, sweeps, _⟩
    · exact nomatch failure.symm.trans success
    · exact ⟨report, sweeps, fun other again => again.unique sweeps⟩
  · intro report sweeps
    obtain ⟨success, printed⟩ := sweeps.reported
    rw [printed, linesOf_report]
    refine ⟨success, ?_, rfl, length_targetLines _, targetLines_iff _⟩
    exact textOf_append [versionLine, summaryLine report] _
  · intro report others t other sweeps again
    have told (unbroken : ∀ target ∈ report.targets, targetBreaks target = 0) :
        (run arguments s).output = (run others t).output ↔
          report.expired = other.expired ∧ report.warned = other.warned ∧
            List.Forall₂ Alike report.targets other.targets := by
      rw [sweeps.reported.2, again.reported.2]
      exact report_eq_iff report other unbroken
    refine ⟨told, ?_⟩
    intro plain clear
    rw [told fun target member => (plain target member).unbroken,
      alike_iff_of_plain _ _ plain clear]

/-! A store has carried out one request, and the command sweeps it a second later. The endpoint and
the owner of the request are what the report shows. -/

namespace Notice

variable (endpoint : String) (owner : Option String)

/-- The request. -/
def draft : NewSubscription.Draft := ⟨endpoint, ["news"], owner, "auth", "p256dh"⟩

/-- The database with the request carried out at the epoch. -/
def database : Database := (Database.fresh.upsert (draft endpoint owner) .epoch).database

/-- The file of the store, and a reading a second after the epoch. -/
def surroundings : Surroundings :=
  ⟨⟨[("data", .folder [("store.db", .file (.database (database endpoint owner)))])]⟩, [],
    .ofMillis 1000, "0"⟩

/-- Warnings after a second, and expiry after another one. -/
def arguments : List String := ["/data/store.db", "1", "2"]

/-- The outcome of the sweep. -/
def report : SweepOutcome := ⟨0, 1, [⟨endpoint, "auth", "p256dh", owner⟩]⟩

/-- The store. -/
def store : FileStore := ⟨database endpoint owner, some ["data", "store.db"], none⟩

/-- The sweep is done if the store is opened and its row is due. -/
theorem sweeps
    (opens : (FileStore.openAt (surroundings endpoint owner).disk [] "/data/store.db").1 =
      .ok (store endpoint owner))
    (due : ((store endpoint owner).sweep (.ofSeconds 1) (.ofSeconds 2) (.ofMillis 1000)
      .empty).1.result = .ok (report endpoint owner)) :
    Sweeps arguments (surroundings endpoint owner) (report endpoint owner) := by
  have ready : Ready arguments (surroundings endpoint owner) ⟨"/data/store.db", ⟨1, 2⟩⟩ .idle
      (surroundings endpoint owner).disk :=
    ⟨⟨none, by decide +kernel, rfl, rfl⟩, by decide +kernel⟩
  refine (sweeps_iff ready (Prod.ext opens rfl)).mpr ?_
  rw [(store endpoint owner).sweep_outcome _ _ _ _ .empty]
  exact due

/-- An endpoint and its owner are told in a line of their own, and without the owner the report is
another one. -/
theorem owner_told :
    Sweeps arguments (surroundings "https://push.example/a" (some "ann"))
      (report "https://push.example/a" (some "ann")) ∧
    (linesOf (run arguments (surroundings "https://push.example/a" (some "ann"))).output).drop 2 =
      ["warn endpoint=https://push.example/a user_id=ann"] ∧
    (run arguments (surroundings "https://push.example/a" (some "ann"))).output ≠
      (run arguments (surroundings "https://push.example/a" none)).output := by
  have owned : Sweeps arguments (surroundings "https://push.example/a" (some "ann"))
      (report "https://push.example/a" (some "ann")) :=
    sweeps _ _ (by decide +kernel) (by decide +kernel)
  have ownerless : Sweeps arguments (surroundings "https://push.example/a" none)
      (report "https://push.example/a" none) :=
    sweeps _ _ (by decide +kernel) (by decide +kernel)
  have solid := unmarked_of_no_blank "https://push.example/a" (by decide +kernel)
  have plain : ∀ target ∈ (report "https://push.example/a" (some "ann")).targets, Plain target := by
    intro target member
    rw [List.mem_singleton.mp member]
    exact ⟨by decide +kernel, solid, by decide +kernel⟩
  have clear : ∀ target ∈ (report "https://push.example/a" none).targets, Plain target := by
    intro target member
    rw [List.mem_singleton.mp member]
    exact ⟨by decide +kernel, solid, nofun⟩
  obtain ⟨_, reports, compares, _⟩ :=
    run_report arguments (surroundings "https://push.example/a" (some "ann"))
  obtain ⟨_, _, _, _, lines⟩ := reports _ owned
  obtain ⟨_, tells⟩ := compares _ _ _ _ owned ownerless
  refine ⟨owned, lines.mpr fun target member => (plain target member).unbroken, ?_⟩
  intro same
  obtain ⟨_, _, pairs⟩ := (tells plain clear).mp same
  exact absurd pairs (by decide)

/-- An endpoint that goes over two lines. -/
def twoLines : String := "https://push.example/a user_id=-\nwarn endpoint=https://push.example/b"

/-- The endpoint is accepted, and its one target is reported as two. A missing owner and one that is
called by the dash are reported alike. -/
theorem report_misleads :
    (Database.fresh.upsert (draft twoLines none) .epoch).result = .ok () ∧
    Sweeps arguments (surroundings twoLines none) (report twoLines none) ∧
    (report twoLines none).targets.length = 1 ∧
    (linesOf (run arguments (surroundings twoLines none)).output).drop 2 =
      ["warn endpoint=https://push.example/a user_id=-",
        "warn endpoint=https://push.example/b user_id=-"] ∧
    ¬ ∀ s report t other, Sweeps arguments s report → Sweeps arguments t other →
      (run arguments s).output = (run arguments t).output →
      report.targets.map (fun target => (target.endpoint, target.userId)) =
        other.targets.map fun target => (target.endpoint, target.userId) := by
  have two : Sweeps arguments (surroundings twoLines none) (report twoLines none) :=
    sweeps _ _ (by decide +kernel) (by decide +kernel)
  have missing : Sweeps arguments (surroundings "https://push.example/a" none)
      (report "https://push.example/a" none) :=
    sweeps _ _ (by decide +kernel) (by decide +kernel)
  have dashed : Sweeps arguments (surroundings "https://push.example/a" (some "-"))
      (report "https://push.example/a" (some "-")) :=
    sweeps _ _ (by decide +kernel) (by decide +kernel)
  refine ⟨by decide +kernel, two, rfl, ?_, ?_⟩
  · rw [two.reported.2, linesOf_report]
    decide +kernel
  · intro tells
    have pairs := tells _ _ _ _ missing dashed (by rw [missing.reported.2, dashed.reported.2]; rfl)
    exact absurd pairs (by decide)

end Notice

end Command

end PushLedger
