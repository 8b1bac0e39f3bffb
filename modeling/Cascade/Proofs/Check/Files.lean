import Mathlib.Data.List.Basic
import Mathlib.Tactic.Lemma
import Cascade.Check.Report

/-!
# Files are judged one by one

The check of several files is compared with the checks of each of them alone.  What a file comes to
alone is its `Fate`: an exit code, or what ends the check.  Files that cannot be read and files
whose rules are rejected have an exit code, but bytes that are no text and patterns that are refused
end the check, and so does a path that no file can have.

Up to the first file that ends the check, every file is judged as it is alone, whatever stands
before it (`judgeAll_of_judged`, `judgeAll_of_break`); behind it nothing is looked at.  The main
result is `files_judged_as_alone`.
-/

namespace Cascade

variable {source : FileSource} {lenient : Bool} {p : Path} {files earlier later : List Path}
  {verdict : Path → Verdict} {v : Verdict} {e : CheckBreak} {request : CheckRequest}

/-! ## One file -/

/-- What a file comes to in a check: an exit code, or what ends the check. -/
inductive Fate (source : FileSource) (lenient : Bool) (p : Path) : Except CheckBreak Nat → Prop
  | accepted {bytes : List UInt8} {text : List Char} {rules : List Rule} (hpath : '\x00' ∉ p.text)
    (hbytes : source p = .ok bytes) (htext : Text.decodeUtf8? bytes = some text)
    (hrules : (readRules (!lenient) (String.ofList (unifyLineEnds text))).result = .ok rules) :
    Fate source lenient p (.ok 0)
  | rejected {bytes : List UInt8} {text : List Char} {error : SyntaxError}
    (hpath : '\x00' ∉ p.text) (hbytes : source p = .ok bytes)
    (htext : Text.decodeUtf8? bytes = some text)
    (hrules : (readRules (!lenient) (String.ofList (unifyLineEnds text))).result =
      .error (.rejected error)) : Fate source lenient p (.ok 1)
  | unreadable {fault : FileFault} (hpath : '\x00' ∉ p.text) (hbytes : source p = .error fault) :
    Fate source lenient p (.ok 1)
  /-- The file can be read, but it is no text. -/
  | undecodable {bytes : List UInt8} (hpath : '\x00' ∉ p.text) (hbytes : source p = .ok bytes)
    (htext : Text.decodeUtf8? bytes = none) : Fate source lenient p (.error .undecodable)
  /-- A pattern of the rules goes beyond all bounds. -/
  | refused {bytes : List UInt8} {text : List Char} {refusal : Pattern.Refusal}
    (hpath : '\x00' ∉ p.text) (hbytes : source p = .ok bytes)
    (htext : Text.decodeUtf8? bytes = some text)
    (hrules : (readRules (!lenient) (String.ofList (unifyLineEnds text))).result =
      .error (.refusedPattern refusal)) : Fate source lenient p (.error (.refusedPattern refusal))
  /-- No file can have such a path. -/
  | badPath (hpath : '\x00' ∈ p.text) : Fate source lenient p (.error .badPath)

/-- The exit code that a judgement calls for. -/
def Verdict.code (v : Verdict) : Nat := if v.isFailure then 1 else 0

/-- The judgement on a file decides its fate. -/
lemma fate_judge (source : FileSource) (lenient : Bool) (p : Path) :
    Fate source lenient p ((judge source lenient p).map Verdict.code) := by
  by_cases hpath : '\x00' ∈ p.text
  · have hjudge : judge source lenient p = .error .badPath := by
      simp [judge, readText, hpath]
    rw [hjudge]
    exact .badPath hpath
  cases hbytes : source p with
  | error fault =>
    have hjudge : judge source lenient p = .ok (.unreadable fault) := by
      simp [judge, readText, hpath, hbytes]
    rw [hjudge]
    exact .unreadable hpath hbytes
  | ok bytes =>
    cases htext : Text.decodeUtf8? bytes with
    | none =>
      have hjudge : judge source lenient p = .error .undecodable := by
        simp [judge, readText, hpath, hbytes, htext]
      rw [hjudge]
      exact .undecodable hpath hbytes htext
    | some text =>
      have hread : readText source p = .ok (unifyLineEnds text) := by
        simp [readText, hpath, hbytes, htext]
      rw [judge, hread]
      cases hrules : (readRules (!lenient) (String.ofList (unifyLineEnds text))).result with
      | ok rules => simpa only [hrules] using .accepted hpath hbytes htext hrules
      | error error =>
        cases error with
        | rejected error => simpa only [hrules] using .rejected hpath hbytes htext hrules
        | refusedPattern refusal => simpa only [hrules] using .refused hpath hbytes htext hrules

/-- A file has one fate only, that of its judgement. -/
lemma fate_iff {ending : Except CheckBreak Nat} :
    Fate source lenient p ending ↔ (judge source lenient p).map Verdict.code = ending := by
  constructor
  · intro h
    cases h with
    | accepted hpath hbytes htext hrules =>
      simp [judge, readText, hpath, hbytes, htext, hrules, Except.map, Verdict.code,
        Verdict.isFailure]
    | rejected hpath hbytes htext hrules =>
      simp [judge, readText, hpath, hbytes, htext, hrules, Except.map, Verdict.code,
        Verdict.isFailure]
    | unreadable hpath hbytes =>
      simp [judge, readText, hpath, hbytes, Except.map, Verdict.code, Verdict.isFailure]
    | undecodable hpath hbytes htext => simp [judge, readText, hpath, hbytes, htext, Except.map]
    | refused hpath hbytes htext hrules =>
      simp [judge, readText, hpath, hbytes, htext, hrules, Except.map]
    | badPath hpath => simp [judge, readText, hpath, Except.map]
  · rintro rfl
    exact fate_judge source lenient p

/-! ## The files in their order -/

/-- Files that are all judged have the judgements that they have alone. -/
lemma judgeAll_of_judged (h : ∀ q ∈ files, judge source lenient q = .ok (verdict q)) :
    judgeAll source lenient files = (files.map fun q => (q, verdict q), none) := by
  induction files with
  | nil => rfl
  | cons q rest ih =>
    obtain ⟨hq, hrest⟩ := List.forall_mem_cons.mp h
    rw [judgeAll, hq, ih hrest]
    rfl

/-- The first file that is not judged ends the check; those before it have their judgements. -/
lemma judgeAll_of_break (h : ∀ q ∈ earlier, judge source lenient q = .ok (verdict q))
    (hp : judge source lenient p = .error e) :
    judgeAll source lenient (earlier ++ p :: later) =
      (earlier.map fun q => (q, verdict q), some e) := by
  induction earlier with
  | nil =>
    rw [List.nil_append, judgeAll, hp]
    rfl
  | cons q rest ih =>
    obtain ⟨hq, hrest⟩ := List.forall_mem_cons.mp h
    rw [List.cons_append, judgeAll, hq, ih hrest]
    rfl

/-- Either all files are judged, or one of them is the first that is not. -/
lemma judged_or_break (source : FileSource) (lenient : Bool) (files : List Path) :
    (∀ q ∈ files, ∃ v, judge source lenient q = .ok v) ∨
      ∃ earlier p later e, files = earlier ++ p :: later ∧
        (∀ q ∈ earlier, ∃ v, judge source lenient q = .ok v) ∧
        judge source lenient p = .error e := by
  induction files with
  | nil => exact .inl nofun
  | cons q rest ih =>
    cases hq : judge source lenient q with
    | error e => exact .inr ⟨[], q, rest, e, rfl, nofun, hq⟩
    | ok v =>
      rcases ih with hall | ⟨earlier, p, later, e, rfl, hearlier, hp⟩
      · exact .inl (List.forall_mem_cons.mpr ⟨⟨v, hq⟩, hall⟩)
      · exact .inr ⟨q :: earlier, p, later, e, rfl,
          List.forall_mem_cons.mpr ⟨⟨v, hq⟩, hearlier⟩, hp⟩

/-! ## Reports -/

/-- The same request for one file only. -/
def CheckRequest.only (request : CheckRequest) (p : Path) : CheckRequest :=
  { request with files := [p] }

namespace CheckReport

/-- The lines that close a report without rules. -/
def closing (failures : Nat) : List String :=
  ["", s!"Validation complete: {failures} file(s) with errors"]

/-- The lines of a report without the two that close it. -/
def body (report : CheckReport) : List String := report.lines.dropLast.dropLast

lemma summary_eq_closing (verdicts : List (Path × Verdict)) :
    summary false verdicts = closing (verdicts.countP fun (_, verdict) => verdict.isFailure) := by
  rw [List.countP_eq_length_filter]
  rfl

lemma body_of_lines_eq {report : CheckReport} {lines : List String} {failures : Nat}
    (h : report.lines = lines ++ closing failures) : report.body = lines := by
  simp [body, h, closing, List.dropLast_append_of_ne_nil]

lemma ofRequest_of_judged
    (h : ∀ q ∈ request.files, judge source request.lenient q = .ok (verdict q)) :
    ofRequest source request =
      ⟨(request.files.flatMap fun q => (verdict q).lines q request.asJson) ++
        summary request.asJson (request.files.map fun q => (q, verdict q)),
        .ok (if ∃ q ∈ request.files, (verdict q).isFailure then 1 else 0)⟩ := by
  rw [ofRequest, judgeAll_of_judged h]
  simp [List.flatMap_map]

lemma ofRequest_of_break (hfiles : request.files = earlier ++ p :: later)
    (h : ∀ q ∈ earlier, judge source request.lenient q = .ok (verdict q))
    (hp : judge source request.lenient p = .error e) :
    ofRequest source request =
      ⟨earlier.flatMap fun q => (verdict q).lines q request.asJson, .error e⟩ := by
  rw [ofRequest, hfiles, judgeAll_of_break h hp]
  simp [List.flatMap_map]

/-- A check of one file shows its judgement, and its ending is the fate of the file. -/
lemma ofRequest_only (source : FileSource) (request : CheckRequest) (p : Path) :
    ofRequest source (request.only p) =
      match judge source request.lenient p with
      | .ok v => ⟨v.lines p request.asJson ++ summary request.asJson [(p, v)], .ok v.code⟩
      | .error e => ⟨[], .error e⟩ := by
  simp only [ofRequest, CheckRequest.only, judgeAll]
  cases judge source request.lenient p with
  | ok v => simp [Verdict.code]
  | error e => rfl

lemma ending_only (source : FileSource) (request : CheckRequest) (p : Path) :
    (ofRequest source (request.only p)).ending =
      (judge source request.lenient p).map Verdict.code := by
  rw [ofRequest_only]
  cases judge source request.lenient p <;> rfl

lemma ending_only_eq_ok {code : Nat} :
    (ofRequest source (request.only p)).ending = .ok code ↔
      ∃ v, judge source request.lenient p = .ok v ∧ v.code = code := by
  rw [ending_only]
  cases judge source request.lenient p <;> simp [Except.map]

lemma ending_only_eq_error :
    (ofRequest source (request.only p)).ending = .error e ↔
      judge source request.lenient p = .error e := by
  rw [ending_only]
  cases judge source request.lenient p <;> simp [Except.map]

lemma lines_only (hjson : request.asJson = false) (h : judge source request.lenient p = .ok v) :
    (ofRequest source (request.only p)).lines = v.lines p false ++ closing v.code := by
  have hsummary : summary false [(p, v)] = closing v.code := by
    rw [summary_eq_closing, Verdict.code]
    cases hfailure : v.isFailure <;> simp [hfailure]
  rw [ofRequest_only, h, hjson]
  exact congrArg (v.lines p false ++ ·) hsummary

lemma body_only (hjson : request.asJson = false) (h : judge source request.lenient p = .ok v) :
    (ofRequest source (request.only p)).body = v.lines p false :=
  body_of_lines_eq (lines_only hjson h)

/-- A file that is judged fails if it has the exit code one alone. -/
lemma isFailure_iff (h : judge source request.lenient p = .ok v) :
    v.isFailure = true ↔ (ofRequest source (request.only p)).ending = .ok 1 := by
  rw [ending_only_eq_ok, h]
  cases hfailure : v.isFailure <;> simp [Verdict.code, hfailure]

/-! ## Several files and each of them -/

lemma ending_of_judged (h : ∀ q ∈ request.files, ∃ v, judge source request.lenient q = .ok v) :
    (ofRequest source request).ending = .ok
      (if ∃ q ∈ request.files, (ofRequest source (request.only q)).ending = .ok 1
        then 1 else 0) := by
  choose! verdict hverdict using h
  rw [ofRequest_of_judged hverdict]
  have hiff : (∃ q ∈ request.files, (verdict q).isFailure = true) ↔
      ∃ q ∈ request.files, (ofRequest source (request.only q)).ending = .ok 1 :=
    exists_congr fun q => and_congr_right fun hq => isFailure_iff (hverdict q hq)
  simp only [hiff]

lemma ending_of_break (hfiles : request.files = earlier ++ p :: later)
    (h : ∀ q ∈ earlier, ∃ v, judge source request.lenient q = .ok v)
    (hp : judge source request.lenient p = .error e) :
    (ofRequest source request).ending = .error e := by
  choose! verdict hverdict using h
  rw [ofRequest_of_break hfiles hverdict hp]

lemma ending_eq_ok_iff {code : Nat} : (ofRequest source request).ending = .ok code ↔
    (∀ q ∈ request.files, ∃ v, judge source request.lenient q = .ok v) ∧
      code = if ∃ q ∈ request.files, (ofRequest source (request.only q)).ending = .ok 1
        then 1 else 0 := by
  constructor
  · intro hending
    rcases judged_or_break source request.lenient request.files with
      hall | ⟨earlier, p, later, e, hfiles, hearlier, hp⟩
    · rw [ending_of_judged hall] at hending
      exact ⟨hall, (Except.ok.inj hending).symm⟩
    · rw [ending_of_break hfiles hearlier hp] at hending
      cases hending
  · rintro ⟨hall, rfl⟩
    exact ending_of_judged hall

lemma ending_eq_error_iff : (ofRequest source request).ending = .error e ↔
    ∃ earlier p later, request.files = earlier ++ p :: later ∧
      (∀ q ∈ earlier, ∃ v, judge source request.lenient q = .ok v) ∧
      judge source request.lenient p = .error e := by
  constructor
  · intro hending
    rcases judged_or_break source request.lenient request.files with
      hall | ⟨earlier, p, later, e', hfiles, hearlier, hp⟩
    · rw [ending_of_judged hall] at hending
      cases hending
    · rw [ending_of_break hfiles hearlier hp] at hending
      exact ⟨earlier, p, later, hfiles, hearlier, hp.trans (congrArg _ (Except.error.inj hending))⟩
  · rintro ⟨earlier, p, later, hfiles, hearlier, hp⟩
    exact ending_of_break hfiles hearlier hp

/-- The lines on judged files are those on each of them alone. -/
lemma flatMap_lines (hjson : request.asJson = false)
    (h : ∀ q ∈ files, judge source request.lenient q = .ok (verdict q)) :
    (files.flatMap fun q => (verdict q).lines q request.asJson) =
      files.flatMap fun q => (ofRequest source (request.only q)).body :=
  List.flatMap_congr fun q hq => by rw [body_only hjson (h q hq), hjson]

lemma lines_of_judged (hjson : request.asJson = false)
    (h : ∀ q ∈ request.files, ∃ v, judge source request.lenient q = .ok v) :
    (ofRequest source request).lines =
      request.files.flatMap (fun q => (ofRequest source (request.only q)).body) ++
        closing (request.files.countP fun q =>
          (ofRequest source (request.only q)).ending = .ok 1) := by
  choose! verdict hverdict using h
  have hcount : (request.files.map fun q => (q, verdict q)).countP (fun (_, v) => v.isFailure) =
      request.files.countP fun q => (ofRequest source (request.only q)).ending = .ok 1 := by
    rw [List.countP_map]
    refine List.countP_congr fun q hq => ?_
    rw [decide_eq_true_eq]
    exact isFailure_iff (hverdict q hq)
  rw [← flatMap_lines hjson hverdict, ← hcount, ← summary_eq_closing, ofRequest_of_judged hverdict,
    hjson]

lemma lines_of_break (hjson : request.asJson = false)
    (hfiles : request.files = earlier ++ p :: later)
    (h : ∀ q ∈ earlier, ∃ v, judge source request.lenient q = .ok v)
    (hp : judge source request.lenient p = .error e) :
    (ofRequest source request).lines =
      earlier.flatMap fun q => (ofRequest source (request.only q)).body := by
  choose! verdict hverdict using h
  rw [ofRequest_of_break hfiles hverdict hp, flatMap_lines hjson hverdict]

end CheckReport

/-! ## The main result -/

/-- **Files are judged one by one.**  Take any files and options, and compare the check of all of
them with the check of each one alone.  A file alone has an exit code, or it ends the check
(`Fate`).  The check of all ends exactly at the first file that ends it alone.  Otherwise its exit
code is one if some file alone has this code, and zero if they all have zero; and unless rules are
asked for as one document, its lines are those on each file alone, in order, and then the number of
those that failed. Where a file ends the check, the lines are those on the files before it. -/
theorem files_judged_as_alone (source : FileSource) (request : CheckRequest) :
    let report := CheckReport.ofRequest source request
    let alone := fun p => CheckReport.ofRequest source (request.only p)
    (∀ p ending, (alone p).ending = ending ↔ Fate source request.lenient p ending) ∧
    (∀ e, report.ending = .error e ↔ ∃ earlier p later, request.files = earlier ++ p :: later ∧
      (∀ q ∈ earlier, ∃ code, (alone q).ending = .ok code) ∧ (alone p).ending = .error e) ∧
    (∀ code, report.ending = .ok code ↔
      (∀ p ∈ request.files, ∃ own, (alone p).ending = .ok own) ∧
        code = if ∃ p ∈ request.files, (alone p).ending = .ok 1 then 1 else 0) ∧
    (request.asJson = false →
      (∀ p failures, (alone p).ending = .ok failures →
        (alone p).lines = (alone p).body ++ CheckReport.closing failures) ∧
      (∀ code, report.ending = .ok code →
        report.lines = request.files.flatMap (fun p => (alone p).body) ++
          CheckReport.closing (request.files.countP fun p => (alone p).ending = .ok 1)) ∧
      ∀ earlier p later e, request.files = earlier ++ p :: later →
        (∀ q ∈ earlier, ∃ code, (alone q).ending = .ok code) → (alone p).ending = .error e →
        report.lines = earlier.flatMap fun q => (alone q).body) := by
  intro report alone
  have hjudged (p : Path) : (∃ code, (alone p).ending = .ok code) ↔
      ∃ v, judge source request.lenient p = .ok v := by
    simp [alone, CheckReport.ending_only_eq_ok]
  have hbroken (p : Path) (e : CheckBreak) : (alone p).ending = .error e ↔
      judge source request.lenient p = .error e := CheckReport.ending_only_eq_error
  simp only [hjudged, hbroken]
  refine ⟨fun p ending => ?_, fun e => CheckReport.ending_eq_error_iff,
    fun code => CheckReport.ending_eq_ok_iff, fun hjson => ⟨fun p failures hending => ?_,
      fun code hending => ?_, fun earlier p later e hfiles hearlier hp => ?_⟩⟩
  · have hending : (alone p).ending = (judge source request.lenient p).map Verdict.code :=
      CheckReport.ending_only source request p
    rw [hending, fate_iff]
  · obtain ⟨v, hv, rfl⟩ := CheckReport.ending_only_eq_ok.mp hending
    have hbody : (alone p).body = v.lines p false := CheckReport.body_only hjson hv
    rw [hbody]
    exact CheckReport.lines_only hjson hv
  · exact CheckReport.lines_of_judged hjson (CheckReport.ending_eq_ok_iff.mp hending).1
  · exact CheckReport.lines_of_break hjson hfiles hearlier hp

/-- Of three files the first one is not there and has its line, as it has alone; the second one is
no text and ends the check; of the third one nothing is said, although alone it is free of
errors. -/
theorem undecodable_file_ends_check :
    let missing := Path.ofText "missing.rules".toList
    let bad := Path.ofText "bad.rules".toList
    let good := Path.ofText "good.rules".toList
    let rules := "rule \"R\": when me.State is \"A\" then set parent.State = \"B\""
    let source : FileSource := fun p =>
      if p = missing then .error .missing
      else if p = bad then .ok [0xFF]
      else .ok (Text.encodeUtf8 rules.toList)
    let request : CheckRequest := { files := [missing, bad, good] }
    let report := CheckReport.ofRequest source request
    let line := "❌ missing.rules: cannot read file ([Errno 2] No such file or directory: " ++
      "'missing.rules')"
    (CheckReport.ofRequest source (request.only missing)).lines = line :: CheckReport.closing 1 ∧
    Fate source false bad (.error .undecodable) ∧ Fate source false good (.ok 0) ∧
    report.ending = .error .undecodable ∧ report.lines = [line] := by
  intro missing bad good rules source request report line
  obtain ⟨hfate, herror, -, hlines⟩ := files_judged_as_alone source request
  have hmissing : (CheckReport.ofRequest source (request.only missing)).ending = .ok 1 := by
    decide +kernel
  have hbad : (CheckReport.ofRequest source (request.only bad)).ending = .error .undecodable := by
    decide +kernel
  have hgood : (CheckReport.ofRequest source (request.only good)).ending = .ok 0 := by
    decide +kernel
  have hbody : (CheckReport.ofRequest source (request.only missing)).body = [line] := by
    decide +kernel
  have hearlier : ∀ q ∈ [missing],
      ∃ code, (CheckReport.ofRequest source (request.only q)).ending = .ok code :=
    List.forall_mem_singleton.mpr ⟨1, hmissing⟩
  obtain ⟨halone, -, hbreak⟩ := hlines rfl
  refine ⟨?_, (hfate bad _).mp hbad, (hfate good _).mp hgood,
    (herror _).mpr ⟨[missing], bad, [good], rfl, hearlier, hbad⟩, ?_⟩
  · rw [halone missing 1 hmissing, hbody]
    rfl
  · rw [hbreak [missing] bad [good] .undecodable rfl hearlier hbad, List.flatMap_singleton, hbody]

end Cascade
