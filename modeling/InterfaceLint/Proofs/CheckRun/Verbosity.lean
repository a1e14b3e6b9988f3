import InterfaceLint.Proofs.CheckRun.ExitStatus
import InterfaceLint.Proofs.Invocation.VerboseFlag
import InterfaceLint.Proofs.Json.Containers

/-!
# Details are for notices only

A check that is asked for details finds the same files, comes to the same
findings and report and ends with the same exit code, or fails with the same
error, as one that is not; what it adds are notices.  The report for tools is
one list, with a line break after it, whatever becomes of the files.
-/

set_option autoImplicit false

namespace InterfaceLint

open Text (Word)

/-! ## Two runs of a check -/

theorem map_prepare_verbose (disk : Disk) (request : CheckRequest) (verbose : Bool) :
    (CheckContext.prepare disk { request with verbose }).map Prod.fst =
      (CheckContext.prepare disk request).map Prod.fst := by
  have sameRoot : CheckContext.rootOf { request with verbose } = CheckContext.rootOf request := rfl
  simp only [CheckContext.prepare, sameRoot]
  cases CheckContext.rootOf request with
  | error error => rfl
  | ok root =>
      simp only [bind, Except.bind]
      cases Settings.load disk root <;> rfl

theorem map_check_verbose (disk : Disk) (request : CheckRequest) (verbose : Bool) :
    (check disk { request with verbose }).map Prod.fst = (check disk request).map Prod.fst := by
  rw [map_check, map_check, map_prepare_verbose]

theorem runCheck_of_error {disk : Disk} {request : CheckRequest} {error : RunError}
    (failed : check disk request = .error error) : runCheck disk request = error.transcript := by
  rw [runCheck, failed]

theorem check_eq_error_iff {disk : Disk} {request : CheckRequest} {error : RunError} :
    check disk request = .error error ↔ (check disk request).map Prod.fst = .error error := by
  cases check disk request <;> simp [Except.map]

/-- Asking for details changes the notices of a check and nothing else. -/
structure DetailsInNotices (disk : Disk) (request : CheckRequest) : Prop where
  context : (CheckContext.prepare disk { request with verbose := true }).map Prod.fst =
    (CheckContext.prepare disk { request with verbose := false }).map Prod.fst
  outcome : SameOutcome disk { request with verbose := true } { request with verbose := false }
  failed : ∀ error, check disk { request with verbose := false } = .error error →
    ∀ verbose, runCheck disk { request with verbose } = error.transcript

theorem detailsInNotices (disk : Disk) (request : CheckRequest) :
    DetailsInNotices disk request where
  context := (map_prepare_verbose disk request true).trans
    (map_prepare_verbose disk request false).symm
  outcome := sameOutcome_of_result rfl ((map_check_verbose disk request true).trans
    (map_check_verbose disk request false).symm)
  failed := by
    intro error failed verbose
    rw [check_eq_error_iff, map_check_verbose] at failed
    refine runCheck_of_error (check_eq_error_iff.mpr ?_)
    rw [map_check_verbose, failed]

/-! ## The report for tools -/

namespace Report

open Json

theorem jsonMembers_exportable (finding : Finding) :
    ∀ member ∈ jsonMembers finding, Exportable 0 member.2 := by
  have fixed : ∀ member ∈ [("id", Value.text finding.rule.id),
      ("severity", .text finding.severity.name), ("message", .text finding.message),
      ("file", .text finding.place.path), ("line", .ofCount finding.place.line),
      ("col", .ofCount finding.place.col)], Exportable 0 member.2 := by
    simp only [List.forall_mem_cons]
    exact ⟨.text _, .text _, .text _, .text _, .natural _, .natural _, by simp⟩
  intro member listed
  rcases List.mem_append.mp listed with isFixed | isNote
  · exact fixed member isFixed
  · split at isNote
    · obtain rfl := List.mem_singleton.mp isNote
      exact .text _
    · cases isNote

theorem jsonValue_exportable (findings : List Finding) : Exportable 2 (jsonValue findings) :=
  .list (List.forall_mem_map.mpr fun finding _ => .object (jsonMembers_exportable finding))

/-- The text is a list with one object for each finding, and a line break; a reader
takes the list and leaves the line break. -/
structure IsOneArray (findings : List Finding) (text : String) : Prop where
  written : ∃ array : String, Written (jsonValue findings) array.toList ∧ text = array ++ "\n"
  read : ∀ steps, text.length < steps →
    (readValue steps 2).Reads text.toList (jsonValue findings) ['\n']

theorem json_isOneArray (findings : List Finding) : IsOneArray findings (json findings) := by
  have exportable := jsonValue_exportable findings
  have written : Written (jsonValue findings) (jsonValue findings).pretty.toList :=
    exportable.written_print 0
  refine ⟨⟨_, written, rfl⟩, fun steps enough => ?_⟩
  have size : (jsonValue findings).pretty.toList.length ≤ (json findings).length := by
    rw [json, String.length_append, String.length_toList]
    exact Nat.le_add_right _ _
  have reads := readValue_takes exportable enough Blank.nil written size
    (by simp [Follows, isBlank] : Follows ['\n'])
  simpa [json] using reads

end Report

theorem stdout_of_json {disk : Disk} {request : CheckRequest} {result : CheckResult}
    {emitted : List Notice} (checked : check disk request = .ok (result, emitted))
    (format : request.format = .json) (colouring : Bool) :
    (runCheck disk request).stdout.render colouring = Report.json result.findings := by
  simp only [runCheck, checked, CheckResult.transcript, format, CheckResult.report]
  simp [Markup.render, Span.render, Span.plain, Style.plain, Style.codes]

/-- With or without the flag a check does the same but for its notices, and the
report for tools is one list with a line break. -/
theorem verbose_flag_adds_notices_only :
    (∀ (environment : Option Word) (words : List Word),
      Invocation.asksForDetails words = false →
        ∀ flag ∈ [Word.ofString "-v", Word.ofString "--verbose"],
          Invocation.AddsDetails
            (Invocation.parse environment (Word.ofString "check" :: words))
            (Invocation.parse environment (Word.ofString "check" :: flag :: words))) ∧
      (∀ (disk : Disk) (request : CheckRequest), DetailsInNotices disk request) ∧
      ∀ (disk : Disk) (request : CheckRequest) (result : CheckResult) (emitted : List Notice),
        request.format = .json → check disk request = .ok (result, emitted) →
          ∀ colouring, Report.IsOneArray result.findings
            ((runCheck disk request).stdout.render colouring) := by
  refine ⟨fun environment words quiet flag listed => ?_, detailsInNotices, ?_⟩
  · exact Invocation.parse_addsDetails environment quiet (by simpa using listed)
  · intro disk request result emitted format checked colouring
    rw [stdout_of_json checked format]
    exact Report.json_isOneArray result.findings

/-- One of the two files is no model; the report is a list all the same. -/
theorem verbose_flag_adds_notices_only_mixedDisk :
    Invocation.AddsDetails
        (Invocation.parse none (["check", "--format", "json"].map Word.ofString))
        (Invocation.parse none (["check", "-v", "--format", "json"].map Word.ofString)) ∧
      DetailsInNotices mixedDisk { format := .json } ∧
      ∃ result emitted, check mixedDisk { format := .json } = .ok (result, emitted) ∧
        ∀ colouring, Report.IsOneArray result.findings
          ((runCheck mixedDisk { format := .json }).stdout.render colouring) := by
  obtain ⟨flagged, details, reported⟩ := verbose_flag_adds_notices_only
  have prepared : CheckContext.prepare mixedDisk { format := .json } = .ok (mixedContext, []) := rfl
  obtain ⟨emitted, checked⟩ := check_of_prepared prepared
  exact ⟨flagged none _ (by decide) _ (by simp), details _ _, _, emitted, checked,
    reported _ _ _ _ rfl checked⟩

end InterfaceLint
