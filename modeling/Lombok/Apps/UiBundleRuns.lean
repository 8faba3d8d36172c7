import Lombok.Apps.UiBundle

/-!
Contract: what is served while bundles are fetched.

Owns the condition under which a request may read a directory of the cache, the files a
directory is to hold, and the answers of every run that meets the condition: a file of
the complete bundle with its policy, or an error, and a file wherever no step of the
request itself went wrong.

The program looks for `manifest.json` alone, which is written first. So a fetch that
failed, or is still going on, is taken for a complete entry, and every later request for
the app is answered from what there is.
-/

namespace Lombok.Apps

open Lombok.Library

variable {Content : Type}

/-! ### What is asked for -/

/-- A file comes from the complete bundle and has its policy; and a request of which no step
went wrong gets the file it asks for, if the manifest has it. -/
structure AnswersRightly (published : UiDir → UiBundle Content) (request : UiRequest Content)
    (uiHash : Option String) (response : UiResponse Content) : Prop where
  complete : ∀ content contentType csp, response = .file content contentType csp →
    ∃ hash, uiHash = some hash ∧
      csp = (published (request.appIdentifier, hash)).cspText ∧
      (relativePath (chooseTarget (published (request.appIdentifier, hash)).manifest
        request.pathname), content) ∈ (published (request.appIdentifier, hash)).files
  healed : request.failed = false → ∃ hash, uiHash = some hash ∧
    ∀ entry, (request.pathname, entry) ∈ (published (request.appIdentifier, hash)).manifest →
      ∃ content contentType,
        (relativePath request.pathname, content) ∈
          (published (request.appIdentifier, hash)).files ∧
        response = .file content contentType (published (request.appIdentifier, hash)).cspText

/-- The files that the cache adds to those of a bundle. -/
def cacheNames : List String := [manifestFile, cspFile, zipFile]

/-- No file of the bundle has a name that the cache uses itself. -/
def UiBundle.isProper (bundle : UiBundle Content) : Bool :=
  bundle.files.all fun file => !cacheNames.contains file.1

/-- No fetch into the directory is under way, and none has failed since one began alone. -/
def UiServer.isReadable (server : UiServer Content) (dir : UiDir) : Bool :=
  server.settled dir && server.isQuiet dir

def UiServer.mayRead (server : UiServer Content) (index : Nat) : Bool :=
  match server.requests[index]? with
  | some request =>
      match request.readingDir with
      | some dir => server.isReadable dir
      | none => true
  | none => true

/-- The steps that do not take a failed or unfinished fetch for a complete one. -/
def mayStep (published : UiDir → UiBundle Content) (server : UiServer Content) :
    UiAction Content → Bool
  | .read index => server.mayRead index
  | .serve index => server.mayRead index
  | .makeDir index _ =>
      match server.requests[index]? with
      | some request =>
          match request.stage with
          | .makingDir uiHash _ _ => (published (request.appIdentifier, uiHash)).isProper
          | _ => true
      | none => true
  | _ => true

variable (published : UiDir → UiBundle Content) (formats : UiFormats Content)

/-! ### The files of a directory -/

/-- What a complete directory holds. -/
def cacheFiles (bundle : UiBundle Content) : List (String × Content) :=
  [(manifestFile, formats.stringify bundle.manifest),
    (cspFile, formats.encode bundle.cspText), (zipFile, bundle.zip)] ++ bundle.files

theorem target_fetchJobs (bundle : UiBundle Content) :
    (fetchJobs formats bundle).filterMap UiJob.target? = cacheFiles formats bundle := by
  have extracted : (bundle.files.map fun file =>
      UiJob.extract file.1 file.2).filterMap UiJob.target? = bundle.files := by
    rw [List.filterMap_map]
    exact List.filterMap_some
  unfold fetchJobs cacheFiles
  rw [List.filterMap_append, List.filterMap_append, extracted]
  exact List.append_nil _

theorem mem_target_fetchJobs {bundle : UiBundle Content} {file : String × Content} :
    (∃ job ∈ fetchJobs formats bundle, job.target? = some file) ↔
      file ∈ cacheFiles formats bundle := by
  rw [← target_fetchJobs, List.mem_filterMap]

theorem cacheFiles_distinct {bundle : UiBundle Content} (proper : bundle.isProper = true) :
    ((cacheFiles formats bundle).map Prod.fst).Nodup := by
  have others : ∀ file ∈ bundle.files,
      file.1 ≠ manifestFile ∧ file.1 ≠ cspFile ∧ file.1 ≠ zipFile := by
    intro file member
    have outside := List.all_eq_true.mp proper file member
    simpa [cacheNames] using outside
  have absent : ∀ name, (name = manifestFile ∨ name = cspFile ∨ name = zipFile) →
      name ∉ bundle.files.map Prod.fst := by
    grind
  simp [cacheFiles, manifestFile, cspFile, zipFile, bundle.ownFiles, absent]

/-- In a proper bundle a path has one content. -/
theorem cacheFiles_unique {bundle : UiBundle Content} (proper : bundle.isProper = true)
    {first second : String × Content} (here : first ∈ cacheFiles formats bundle)
    (there : second ∈ cacheFiles formats bundle) (same : first.1 = second.1) :
    first = second :=
  List.inj_on_of_nodup_map (cacheFiles_distinct formats proper) here there same

theorem inherited_proper : ∀ name ∈ inheritedNames,
    relativePath name ≠ manifestFile ∧ relativePath name ≠ cspFile ∧
      relativePath name ≠ zipFile := by decide +kernel

/-! ### What holds in every run -/

def UiRequest.WillWrite (request : UiRequest Content) (dir : UiDir) (file : String × Content) :
    Prop :=
  ∃ uiHash manifest csp jobs, request.stage = .filling uiHash manifest csp jobs ∧
    dir = (request.appIdentifier, uiHash) ∧ ∃ job ∈ jobs, job.target? = some file

/-- What a request holds is what is published, and what it has yet to write is too. -/
def RequestSound (request : UiRequest Content) : Prop :=
  match request.stage with
  | .readingManifest _ | .asking _ => True
  | .readingCsp uiHash content =>
      content = formats.stringify (published (request.appIdentifier, uiHash)).manifest
  | .makingDir uiHash manifest csp | .loaded uiHash manifest csp =>
      manifest = (published (request.appIdentifier, uiHash)).manifest ∧
        csp = (published (request.appIdentifier, uiHash)).cspText
  | .filling uiHash manifest csp jobs =>
      (manifest = (published (request.appIdentifier, uiHash)).manifest ∧
        csp = (published (request.appIdentifier, uiHash)).cspText) ∧
      (published (request.appIdentifier, uiHash)).isProper = true ∧
      ∀ job ∈ jobs, ∀ file, job.target? = some file →
        file ∈ cacheFiles formats (published (request.appIdentifier, uiHash))
  | .answered uiHash response => AnswersRightly published request uiHash response

/-- In a settled directory every file is complete, or is yet to be written by a fetch that
is under way; and a directory holds nothing else. -/
structure UiSound (server : UiServer Content) : Prop where
  kept : ∀ dir, server.settled dir = true → ∀ file ∈ cacheFiles formats (published dir),
    server.disk dir file.1 = some file.2 ∨
      ∃ request ∈ server.requests, request.WillWrite dir file
  known : ∀ dir path content, server.disk dir path = some content →
    path ∈ (cacheFiles formats (published dir)).map Prod.fst
  requests : ∀ request ∈ server.requests, RequestSound published formats request

theorem uiSound_start : UiSound published formats UiServer.start where
  kept := fun _ settled => Bool.noConfusion settled
  known := nofun
  requests := fun _ member => absurd member List.not_mem_nil

section Sound

variable {published : UiDir → UiBundle Content} {formats : UiFormats Content}

theorem fillingDir_of_willWrite {request : UiRequest Content} {dir : UiDir}
    {file : String × Content} (will : request.WillWrite dir file) :
    request.fillingDir = some dir := by
  obtain ⟨uiHash, manifest, csp, jobs, stage, rfl, _⟩ := will
  rw [UiRequest.fillingDir, stage]

/-- A directory that may be read has every file complete. -/
theorem UiSound.readable {server : UiServer Content} (sound : UiSound published formats server)
    {dir : UiDir} (readable : server.isReadable dir = true) {file : String × Content}
    (member : file ∈ cacheFiles formats (published dir)) :
    server.disk dir file.1 = some file.2 := by
  obtain ⟨settled, quiet⟩ := Bool.and_eq_true_iff.mp readable
  rcases sound.kept dir settled file member with whole | ⟨request, inside, will⟩
  · exact whole
  · have apart := List.all_eq_true.mp quiet request inside
    exact absurd (fillingDir_of_willWrite will) (of_decide_eq_true apart)

/-- Requests other than the one that is replaced are still there. -/
theorem mem_set_of_ne {requests : List (UiRequest Content)} {index : Nat}
    {request other next : UiRequest Content} (found : requests[index]? = some request)
    (member : other ∈ requests) (apart : other ≠ request) :
    other ∈ requests.set index next := by
  obtain ⟨place, there⟩ := List.mem_iff_getElem?.mp member
  have elsewhere : index ≠ place := by
    grind
  exact List.mem_iff_getElem?.mpr ⟨place, by rw [List.getElem?_set_ne elsewhere]; exact there⟩

theorem mem_set_self {requests : List (UiRequest Content)} {index : Nat}
    {request next : UiRequest Content} (found : requests[index]? = some request) :
    next ∈ requests.set index next := by
  have inside : index < requests.length := by
    grind
  exact List.mem_iff_getElem?.mpr ⟨index, List.getElem?_set_self inside⟩

/-- One request goes on: what it had to write is written or yet to be written by it, and what
other requests had to write is as it was. -/
theorem UiSound.replace {server after : UiServer Content}
    (sound : UiSound published formats server) {index : Nat} {request next : UiRequest Content}
    (found : server.requests[index]? = some request)
    (requests : after.requests = server.requests.set index next)
    (nextSound : RequestSound published formats next)
    (known : ∀ dir path content, after.disk dir path = some content →
      path ∈ (cacheFiles formats (published dir)).map Prod.fst)
    (kept : ∀ dir, after.settled dir = true → ∀ file ∈ cacheFiles formats (published dir),
      next.WillWrite dir file ∨ after.disk dir file.1 = some file.2 ∨
        server.settled dir = true ∧ after.disk dir file.1 = server.disk dir file.1 ∧
          ¬ request.WillWrite dir file) :
    UiSound published formats after where
  kept := by
    intro dir settled file member
    rw [requests]
    rcases kept dir settled file member with will | whole | ⟨before, same, idle⟩
    · exact Or.inr ⟨next, mem_set_self found, will⟩
    · exact Or.inl whole
    · rcases sound.kept dir before file member with whole | ⟨other, inside, will⟩
      · exact Or.inl (same.trans whole)
      · have apart : other ≠ request := by
          rintro rfl
          exact idle will
        exact Or.inr ⟨other, mem_set_of_ne found inside apart, will⟩
  known := known
  requests := by
    grind [sound.requests]

/-- A request that neither was writing nor writes now leaves the files alone. -/
theorem UiSound.put {server after : UiServer Content}
    (sound : UiSound published formats server) {index : Nat} {request next : UiRequest Content}
    (found : server.requests[index]? = some request) (idle : request.fillingDir = none)
    (disk : after.disk = server.disk) (settled : after.settled = server.settled)
    (requests : after.requests = server.requests.set index next)
    (nextSound : RequestSound published formats next) :
    UiSound published formats after := by
  refine sound.replace found requests nextSound ?_ ?_
  · rw [disk]
    exact sound.known
  · intro dir isSettled file _
    rw [settled] at isSettled
    refine Or.inr (Or.inr ⟨isSettled, by rw [disk], fun will => ?_⟩)
    rw [fillingDir_of_willWrite will] at idle
    cases idle

/-- An error after a step that did not work out. -/
theorem answersRightly_failed {request : UiRequest Content} (failed : request.failed = true)
    (uiHash : Option String) (status : Nat) (message : String) :
    AnswersRightly published request uiHash (.error status message) where
  complete := nofun
  healed := by
    simp [failed]

theorem requestSound_failed (request : UiRequest Content) (uiHash : Option String) (status : Nat)
    (message : String) :
    RequestSound published formats (request.answer uiHash (.error status message) true) :=
  answersRightly_failed rfl uiHash status message

/-! ### The steps -/

theorem UiSound.respond {server : UiServer Content} (sound : UiSound published formats server)
    {index : Nat} {request : UiRequest Content} {uiHash : String}
    (found : server.requests[index]? = some request) (stage : request.stage = .asking uiHash)
    (response : Option UiBundleResponse) :
    UiSound published formats (respondRequest published server index request uiHash response) := by
  have idle : request.fillingDir = none := by
    rw [UiRequest.fillingDir, stage]
  unfold respondRequest
  cases response with
  | none => exact sound.put found idle rfl rfl rfl (requestSound_failed request none _ _)
  | some response =>
      dsimp only
      by_cases unready : response.uiHash = ""
      · rw [if_pos unready]
        exact sound.put found idle rfl rfl rfl (requestSound_failed request none _ _)
      · rw [if_neg unready]
        -- The mapping has no part in what holds.
        by_cases fresh : response.uiHash ≠ uiHash
        · split
          · exact sound.put found idle rfl rfl rfl (requestSound_failed request none _ _)
          · exact sound.put found idle rfl rfl rfl ⟨rfl, rfl⟩
        · split
          · exact sound.put found idle rfl rfl rfl (requestSound_failed request none _ _)
          · exact sound.put found idle rfl rfl rfl ⟨rfl, rfl⟩

/-- A fetch that begins has every file of its directory yet to write. -/
theorem UiSound.makeDir {server : UiServer Content} (sound : UiSound published formats server)
    {index : Nat} {request : UiRequest Content} {uiHash : String} {manifest : UiManifest}
    {csp : String} (found : server.requests[index]? = some request)
    (stage : request.stage = .makingDir uiHash manifest csp)
    (proper : (published (request.appIdentifier, uiHash)).isProper = true)
    (outcome : UiOutcome) :
    UiSound published formats
      (makeDirRequest published formats server index request uiHash manifest csp outcome) := by
  have idle : request.fillingDir = none := by
    rw [UiRequest.fillingDir, stage]
  have holds := sound.requests request (List.mem_of_getElem? found)
  rw [RequestSound, stage] at holds
  cases outcome with
  | done =>
      refine sound.replace found rfl
        ⟨holds, proper, fun job member file target =>
          (mem_target_fetchJobs formats).mp ⟨job, member, target⟩⟩ sound.known ?_
      intro dir settled file member
      by_cases own : dir = (request.appIdentifier, uiHash)
      · subst own
        exact Or.inl ⟨uiHash, manifest, csp, _, rfl, rfl, (mem_target_fetchJobs formats).mpr member⟩
      · have before : server.settled dir = true := by
          have same : (if dir = (request.appIdentifier, uiHash) then
              server.settled (request.appIdentifier, uiHash) ||
                server.isQuiet (request.appIdentifier, uiHash)
            else server.settled dir) = true := settled
          rw [if_neg own] at same
          exact same
        refine Or.inr (Or.inr ⟨before, rfl, fun will => ?_⟩)
        rw [fillingDir_of_willWrite will] at idle
        cases idle
  | failed => exact sound.put found idle rfl rfl rfl (requestSound_failed request none _ _)
  | thrown => exact sound.put found idle rfl rfl rfl (requestSound_failed request none _ _)

theorem writeFile_disk (server : UiServer Content) (dir : UiDir) (path : String)
    (content : Content) (other : UiDir) (file : String) :
    (server.writeFile dir path content).disk other file =
      if other = dir ∧ file = path then some content else server.disk other file := rfl

theorem UiSound.known_writeFile {server : UiServer Content}
    (sound : UiSound published formats server) {own : UiDir} {target : String × Content}
    (listed : target ∈ cacheFiles formats (published own)) (content : Content) :
    ∀ dir path other, (server.writeFile own target.1 content).disk dir path = some other →
      path ∈ (cacheFiles formats (published dir)).map Prod.fst := by
  intro dir path other there
  rw [writeFile_disk] at there
  grind [sound.known]

/-- A file that is half written is still to be written. -/
theorem UiSound.tear {server : UiServer Content} (sound : UiSound published formats server)
    {index : Nat} {request : UiRequest Content} (found : server.requests[index]? = some request)
    (content : Content) : UiSound published formats (tearRequest server request content) := by
  have member := List.mem_of_getElem? found
  have holds := sound.requests request member
  unfold tearRequest
  split
  · rename_i uiHash manifest csp job rest stage
    split
    · rename_i path whole target
      rw [RequestSound, stage] at holds
      obtain ⟨_, proper, pending⟩ := holds
      have listed := pending job List.mem_cons_self (path, whole) target
      refine ⟨?_, sound.known_writeFile listed content, sound.requests⟩
      intro dir settled file inside
      rw [writeFile_disk]
      by_cases written : dir = (request.appIdentifier, uiHash) ∧ file.1 = path
      · obtain ⟨rfl, same⟩ := written
        have isTarget := cacheFiles_unique formats proper inside listed same
        rw [isTarget]
        exact Or.inr ⟨request, member, uiHash, manifest, csp, _, stage, rfl, job,
          List.mem_cons_self, target⟩
      · rw [if_neg written]
        exact sound.kept dir settled file inside
    · exact sound
  · exact sound

theorem fillingDir_of_stage {request : UiRequest Content} {uiHash : String}
    {manifest : UiManifest} {csp : String} {jobs : List (UiJob Content)}
    (stage : request.stage = .filling uiHash manifest csp jobs) :
    request.fillingDir = some (request.appIdentifier, uiHash) := by
  rw [UiRequest.fillingDir, stage]

/-- After a failure nothing is promised of the directory. -/
theorem UiSound.fail {server : UiServer Content} (sound : UiSound published formats server)
    {index : Nat} {request : UiRequest Content} {dir : UiDir}
    (found : server.requests[index]? = some request) (filling : request.fillingDir = some dir)
    (status : Nat) (message : String) :
    UiSound published formats
      ((server.settle dir false).put index
        (request.answer none (.error status message) true)) := by
  refine sound.replace found rfl (requestSound_failed request none status message) sound.known ?_
  intro other settled file _
  have same : (if other = dir then false else server.settled other) = true := settled
  by_cases own : other = dir
  · rw [if_pos own] at same
    cases same
  · rw [if_neg own] at same
    refine Or.inr (Or.inr ⟨same, rfl, fun will => own ?_⟩)
    have there := fillingDir_of_willWrite will
    rw [filling] at there
    exact (Option.some.inj there).symm

/-- Where a fetch goes on to, after one of its steps. -/
def stageAfter (uiHash : String) (manifest : UiManifest) (csp : String) :
    List (UiJob Content) → UiStage Content
  | [] => .loaded uiHash manifest csp
  | next :: others => .filling uiHash manifest csp (next :: others)

theorem willWrite_stageAfter {request : UiRequest Content} {uiHash : String}
    {manifest : UiManifest} {csp : String} {rest : List (UiJob Content)}
    {file : String × Content} (pending : ∃ job ∈ rest, job.target? = some file) :
    UiRequest.WillWrite { request with stage := stageAfter uiHash manifest csp rest }
      (request.appIdentifier, uiHash) file := by
  cases rest with
  | nil =>
      grind
  | cons next others => exact ⟨uiHash, manifest, csp, next :: others, rfl, rfl, pending⟩

/-- After a step of a fetch its file is complete, and the others are still to be written. -/
theorem UiSound.done {server : UiServer Content} (sound : UiSound published formats server)
    {index : Nat} {request : UiRequest Content} {uiHash : String} {manifest : UiManifest}
    {csp : String} {job : UiJob Content} {rest : List (UiJob Content)}
    (found : server.requests[index]? = some request)
    (stage : request.stage = .filling uiHash manifest csp (job :: rest)) :
    UiSound published formats
      ((match job.target? with
        | some (path, content) => server.writeFile (request.appIdentifier, uiHash) path content
        | none => server).put index
        { request with stage := stageAfter uiHash manifest csp rest }) := by
  have holds := sound.requests request (List.mem_of_getElem? found)
  rw [RequestSound, stage] at holds
  obtain ⟨isPublished, proper, pending⟩ := holds
  have nextSound : RequestSound published formats
      { request with stage := stageAfter uiHash manifest csp rest } := by
    cases rest with
    | nil => exact isPublished
    | cons next others =>
        exact ⟨isPublished, proper, fun other member =>
          pending other (List.mem_cons_of_mem job member)⟩
  have ownDir : ∀ {dir file}, request.WillWrite dir file →
      dir = (request.appIdentifier, uiHash) := by
    intro dir file will
    have filling := fillingDir_of_willWrite will
    grind [fillingDir_of_stage]
  have ahead : ∀ {dir file}, request.WillWrite dir file → job.target? ≠ some file →
      UiRequest.WillWrite { request with stage := stageAfter uiHash manifest csp rest }
        dir file := by
    intro dir file will other
    rw [ownDir will]
    obtain ⟨_, _, _, jobs, sameStage, _, later, member, target⟩ := will
    grind [willWrite_stageAfter]
  cases target : job.target? with
  | none =>
      refine sound.replace found rfl nextSound sound.known ?_
      intro dir settled file _
      by_cases will : request.WillWrite dir file
      · exact Or.inl (ahead will (by rw [target]; nofun))
      · exact Or.inr (Or.inr ⟨settled, rfl, will⟩)
  | some written =>
      have listed := pending job List.mem_cons_self written target
      refine sound.replace found rfl nextSound (sound.known_writeFile listed written.2) ?_
      intro dir settled file inside
      by_cases same : dir = (request.appIdentifier, uiHash) ∧ file.1 = written.1
      · obtain ⟨rfl, samePath⟩ := same
        have isWritten := cacheFiles_unique formats proper inside listed samePath
        refine Or.inr (Or.inl ?_)
        rw [isWritten]
        exact if_pos ⟨rfl, rfl⟩
      · by_cases will : request.WillWrite dir file
        · refine Or.inl (ahead will fun isTarget => same ⟨ownDir will, ?_⟩)
          grind
        · exact Or.inr (Or.inr ⟨settled, if_neg same, will⟩)

theorem UiSound.job {server : UiServer Content} (sound : UiSound published formats server)
    {index : Nat} {request : UiRequest Content} {uiHash : String} {manifest : UiManifest}
    {csp : String} {job : UiJob Content} {rest : List (UiJob Content)}
    (found : server.requests[index]? = some request)
    (stage : request.stage = .filling uiHash manifest csp (job :: rest)) (outcome : UiOutcome) :
    UiSound published formats
      (jobRequest server index request uiHash manifest csp job rest outcome) := by
  have filling := fillingDir_of_stage stage
  have errors : ∀ bad : UiOutcome, ∃ status message, job.failure bad = .error status message := by
    intro bad
    unfold UiJob.failure
    split
    · exact ⟨_, _, rfl⟩
    · exact ⟨_, _, rfl⟩
    · exact ⟨_, _, rfl⟩
    · exact ⟨_, _, rfl⟩
  cases outcome with
  | done =>
      have done := sound.done found stage
      cases rest with
      | nil => exact done
      | cons next others => exact done
  | failed =>
      obtain ⟨status, message, same⟩ := errors .failed
      show UiSound published formats ((server.settle _ false).put index
        (request.answer none (job.failure .failed) true))
      rw [same]
      exact sound.fail found filling status message
  | thrown =>
      obtain ⟨status, message, same⟩ := errors .thrown
      show UiSound published formats ((server.settle _ false).put index
        (request.answer none (job.failure .thrown) true))
      rw [same]
      exact sound.fail found filling status message

theorem readable_of_mayRead {server : UiServer Content} {index : Nat}
    {request : UiRequest Content} {dir : UiDir}
    (found : server.requests[index]? = some request) (may : server.mayRead index = true)
    (reading : request.readingDir = some dir) : server.isReadable dir = true := by
  grind [UiServer.mayRead]

theorem UiSound.read {server : UiServer Content} (sound : UiSound published formats server)
    {index : Nat} {request : UiRequest Content} {stage : UiStage Content}
    (found : server.requests[index]? = some request) (may : server.mayRead index = true)
    (reads : readRequest formats server request = some stage) :
    UiSound published formats (server.put index { request with stage := stage }) := by
  have holds := sound.requests request (List.mem_of_getElem? found)
  unfold readRequest at reads
  split at reads
  · rename_i uiHash reading
    have readable : server.isReadable (request.appIdentifier, uiHash) = true :=
      readable_of_mayRead found may (by unfold UiRequest.readingDir; rw [reading])
    have idle : request.fillingDir = none := by
      rw [UiRequest.fillingDir, reading]
    have whole := sound.readable readable (List.mem_append_left _ List.mem_cons_self)
    rw [whole] at reads
    cases reads
    exact sound.put found idle rfl rfl rfl rfl
  · rename_i uiHash content reading
    have readable : server.isReadable (request.appIdentifier, uiHash) = true :=
      readable_of_mayRead found may (by unfold UiRequest.readingDir; rw [reading])
    have idle : request.fillingDir = none := by
      rw [UiRequest.fillingDir, reading]
    have whole := sound.readable readable (List.mem_append_left _
      (List.mem_cons_of_mem _ List.mem_cons_self))
    rw [RequestSound, reading] at holds
    rw [whole, holds, formats.parse_stringify] at reads
    dsimp only at reads
    rw [formats.decode_encode] at reads
    cases reads
    exact sound.put found idle rfl rfl rfl ⟨rfl, rfl⟩
  · cases reads

/-- What is read below the directory at the path of a target is that file of the bundle. -/
theorem UiSound.mem_files {server : UiServer Content} (sound : UiSound published formats server)
    {dir : UiDir} (readable : server.isReadable dir = true) {target : String}
    (isTarget : isIn (published dir).manifest target = true) {content : Content}
    (there : server.disk dir (relativePath target) = some content) :
    (relativePath target, content) ∈ (published dir).files := by
  rcases Bool.or_eq_true_iff.mp isTarget with own | inherited
  · obtain ⟨entry, member, same⟩ := List.any_eq_true.mp own
    obtain ⟨listed, inside⟩ := (published dir).listed entry member
    rw [beq_iff_eq.mp same] at inside
    have whole := sound.readable readable (List.mem_append_right _ inside)
    grind
  · obtain ⟨notManifest, notCsp, notZip⟩ :=
      inherited_proper target (List.contains_iff_mem.mp inherited)
    obtain ⟨file, member, same⟩ := List.mem_map.mp (sound.known dir _ content there)
    have whole := sound.readable readable member
    rw [same, there] at whole
    have isFile : file = (relativePath target, content) :=
      Prod.ext same (Option.some.inj whole).symm
    rw [isFile] at member
    rcases List.mem_append.mp member with cacheOwn | inside
    · simp [notManifest, notCsp, notZip] at cacheOwn
    · exact inside

/-- The file of the manifest is served from a directory that may be read. -/
theorem UiSound.answersRightly {server : UiServer Content}
    (sound : UiSound published formats server) {request : UiRequest Content} {uiHash : String}
    (readable : server.isReadable (request.appIdentifier, uiHash) = true) :
    AnswersRightly published request (some uiHash)
      (serveFile (published (request.appIdentifier, uiHash)).manifest
        (published (request.appIdentifier, uiHash)).cspText request.pathname
        (server.disk (request.appIdentifier, uiHash))) where
  complete := by
    intro content contentType csp same
    refine ⟨uiHash, rfl, ?_⟩
    unfold serveFile at same
    dsimp only at same
    split at same
    · rename_i isTarget
      split at same
      · grind [sound.mem_files]
      · cases same
    · cases same
  healed := by
    intro _
    refine ⟨uiHash, rfl, fun entry member => ?_⟩
    obtain ⟨content, inside⟩ :=
      (published (request.appIdentifier, uiHash)).listed (request.pathname, entry) member
    have whole := sound.readable readable (List.mem_append_right _ inside)
    have isOwn : isIn (published (request.appIdentifier, uiHash)).manifest
        request.pathname = true :=
      Bool.or_eq_true_iff.mpr (Or.inl (List.any_eq_true.mpr ⟨_, member, beq_self_eq_true _⟩))
    simp [chooseTarget, serveFile, isOwn, whole, inside]

theorem UiSound.serve {server : UiServer Content} (sound : UiSound published formats server)
    {index : Nat} {request : UiRequest Content} {uiHash : String} {manifest : UiManifest}
    {csp : String} (found : server.requests[index]? = some request)
    (may : server.mayRead index = true) (stage : request.stage = .loaded uiHash manifest csp) :
    UiSound published formats
      (server.put index (request.answer (some uiHash)
        (serveFile manifest csp request.pathname (server.disk (request.appIdentifier, uiHash)))
        request.failed)) := by
  have holds := sound.requests request (List.mem_of_getElem? found)
  rw [RequestSound, stage] at holds
  obtain ⟨rfl, rfl⟩ := holds
  have readable : server.isReadable (request.appIdentifier, uiHash) = true :=
    readable_of_mayRead found may (by unfold UiRequest.readingDir; rw [stage])
  have idle : request.fillingDir = none := by
    rw [UiRequest.fillingDir, stage]
  have right := sound.answersRightly readable
  exact sound.put found idle rfl rfl rfl ⟨right.complete, right.healed⟩

theorem requestSound_arrive (server : UiServer Content) (appIdentifier pathname : String) :
    RequestSound published formats (arriveRequest server appIdentifier pathname) := by
  grind [arriveRequest, RequestSound]

/-- A step that meets the condition keeps what holds. -/
theorem uiSound_step {server : UiServer Content} (sound : UiSound published formats server)
    (action : UiAction Content) (may : mayStep published server action = true) :
    UiSound published formats (uiStep published formats server action) := by
  cases action with
  | mapped appIdentifier uiHash => exact ⟨sound.kept, sound.known, sound.requests⟩
  | arrive appIdentifier pathname =>
      refine ⟨?_, sound.known, ?_⟩
      · intro dir settled file member
        rcases sound.kept dir settled file member with whole | ⟨request, inside, will⟩
        · exact Or.inl whole
        · exact Or.inr ⟨request, List.mem_append_left _ inside, will⟩
      · intro request member
        rcases List.mem_append.mp member with before | new
        · exact sound.requests request before
        · grind [requestSound_arrive]
  | respond index response =>
      grind [uiStep, sound.respond]
  | makeDir index outcome =>
      grind [mayStep, uiStep, sound.makeDir]
  | tear index content =>
      grind [uiStep, sound.tear]
  | job index outcome =>
      grind [uiStep, sound.job]
  | read index =>
      rw [uiStep]
      cases found : server.requests[index]? with
      | none => exact sound
      | some request =>
          dsimp only
          cases reads : readRequest formats server request with
          | none => exact sound
          | some stage => exact sound.read found may reads
  | serve index =>
      rw [uiStep]
      cases found : server.requests[index]? with
      | none => exact sound
      | some request =>
          dsimp only
          split
          · rename_i uiHash manifest csp stage
            exact sound.serve found may stage
          · exact sound

end Sound

/-- **Bundles.** In every run in which no request reads a directory while a fetch into it is
under way, or after one has failed in it since one began alone, and no bundle has a file
under a name of the cache, every answer is right. -/
theorem uiRequests_answeredRightly (actions : List (UiAction Content))
    (along : AlongRun (uiStep published formats)
      (fun server action => mayStep published server action = true) UiServer.start actions) :
    ∀ request ∈ (run (uiStep published formats) UiServer.start actions).requests,
      ∀ uiHash response, request.stage = .answered uiHash response →
        AnswersRightly published request uiHash response := by
  have sound := @run_invariant_of_alongRun _ _ (uiStep published formats)
    (UiSound published formats) (fun server action => mayStep published server action = true)
    (fun _ action holds may => uiSound_step holds action may) UiServer.start
    (uiSound_start published formats) actions along
  intro request member uiHash response stage
  have holds := sound.requests request member
  rw [RequestSound, stage] at holds
  exact holds

/-! ### Two runs -/

/-- Contents of a sample: texts that are JSON, and others. -/
inductive SampleContent where
  | json (manifest : UiManifest)
  | text (text : String)

def sampleFormats : UiFormats SampleContent where
  stringify := .json
  parse := fun content =>
    match content with
    | .json manifest => some manifest
    | .text _ => none
  encode := .text
  decode := fun content =>
    match content with
    | .json _ => ""
    | .text text => text
  parse_stringify := fun _ => rfl
  decode_encode := fun _ => rfl

/-- A page and its policy. -/
def sampleBundle : UiBundle SampleContent where
  manifest := [("index.html", ⟨"a0", 6, "text/html"⟩)]
  csp := some "default-src 'self'"
  zip := .text "zip"
  files := [("index.html", .text "<html>")]
  ownPaths := by decide
  ownFiles := by decide
  listed := by
    intro entry member
    rw [List.mem_singleton.mp member]
    have path : relativePath "index.html" = "index.html" := by decide +kernel
    rw [path]
    exact ⟨_, List.mem_cons_self⟩

/-- A request that fetches the bundle. -/
def fetchingActions : List (UiAction SampleContent) :=
  [.arrive "app" "index.html", .respond 0 (some ⟨"h1", "https://storage/h1.zip"⟩),
    .makeDir 0 .done, .job 0 .done, .job 0 .done]

/-- The fetch is done, and another request is answered from the cache. -/
def cachedActions : List (UiAction SampleContent) :=
  fetchingActions ++ [.job 0 .done, .job 0 .done, .tear 0 (.text "<"), .job 0 .done,
    .job 0 .done, .serve 0, .arrive "app" "index.html", .read 1, .read 1, .serve 1]

/-- The download fails, and another request is answered from the cache. -/
def failedActions : List (UiAction SampleContent) :=
  fetchingActions ++ [.job 0 .failed, .arrive "app" "index.html", .read 1, .read 1, .serve 1]

/-- The other request, answered from the cache. -/
def cachedRequest : UiRequest SampleContent where
  appIdentifier := "app"
  pathname := "index.html"
  stage := .answered (some "h1") (.file (.text "<html>") (some "text/html") "default-src 'self'")
  failed := false

theorem uiRequests_answeredRightly_cached :
    AnswersRightly (fun _ => sampleBundle) cachedRequest (some "h1")
      (.file (.text "<html>") (some "text/html") "default-src 'self'") := by
  have there : (run (uiStep (fun _ => sampleBundle) sampleFormats) UiServer.start
      cachedActions).requests[1]? = some cachedRequest := by rfl
  exact uiRequests_answeredRightly (fun _ => sampleBundle) sampleFormats cachedActions
    (by decide +kernel) cachedRequest (List.mem_of_getElem? there) _ _ rfl

/-- The other request, answered with an error though none of its steps went wrong. -/
def unhealedRequest : UiRequest SampleContent where
  appIdentifier := "app"
  pathname := "index.html"
  stage := .answered (some "h1") (.error 500 "Internal server error")
  failed := false

/-- A download that failed is never made up for: the next request finds the manifest, and is
answered with an error, though the bundle has its file and no step of it went wrong. -/
theorem uiRequests_not_answeredRightly :
    ¬ ∀ request ∈ (run (uiStep (fun _ => sampleBundle) sampleFormats) UiServer.start
        failedActions).requests,
      ∀ uiHash response, request.stage = .answered uiHash response →
        AnswersRightly (fun _ => sampleBundle) request uiHash response := by
  intro claim
  have there : (run (uiStep (fun _ => sampleBundle) sampleFormats) UiServer.start
      failedActions).requests[1]? = some unhealedRequest := by rfl
  have right := claim unhealedRequest (List.mem_of_getElem? there) _ _ rfl
  obtain ⟨hash, _, healed⟩ := right.healed rfl
  obtain ⟨_, _, _, served⟩ := healed ⟨"a0", 6, "text/html"⟩ List.mem_cons_self
  cases served

end Lombok.Apps
