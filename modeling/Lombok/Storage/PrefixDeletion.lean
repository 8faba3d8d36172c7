import Lombok.Core.Values
import Lombok.Library.Action
import Mathlib.Data.Finset.Card
import Mathlib.Data.Finset.SDiff

/-!
Contract: which objects `deleteAllWithPrefix` deletes.

The storage service is a parameter. It answers `ListObjectsV2` page by page and
deletes single keys; `PagesOnce` says that the pages from a token on list the
keys that are left, each once, and that a delete removes its key and nothing
else. Under it the `while` loop deletes what the pages from its token list, for
every number of pages (`deletePages_ahead`). The token that the loop starts with
is the empty text, which is falsy, so `deleteAllWithPrefix` does not turn once.

Does not own: the signature of a request, and the other steps of uninstalling.
-/

namespace Lombok.Storage

open Lombok.Core Lombok.Library Lombok.Library.Action

/-! ### The storage service -/

/-- The bucket a call is about, and what it is reached with. -/
structure BucketAccess where
  accessKeyId : String
  secretAccessKey : String
  endpoint : String
  region : String
  bucket : String
deriving DecidableEq, Inhabited

structure ListObjectsV2Input where
  keyPrefix : Option String
  bucket : String
  continuationToken : Option String
deriving DecidableEq, Inhabited

/-- An entry of a listing, by the field that is read here. -/
structure S3Object where
  key : Option String
deriving DecidableEq, Inhabited

structure ListObjectsV2Output where
  contents : Option (List S3Object)
  nextContinuationToken : Option String
deriving DecidableEq, Inhabited

/-- A storage service with state `σ`, and the keys its buckets hold. -/
structure S3Server (σ : Type) where
  listObjectsV2 : BucketAccess → ListObjectsV2Input → Action σ ApiError ListObjectsV2Output
  deleteObject : BucketAccess → String → Action σ ApiError Unit
  keys : σ → String → Finset String

/-! ### Listing and deleting -/

section Deleting

variable {σ : Type} (server : S3Server σ) (access : BucketAccess)

/-- The token of a next request. A token without characters is falsy. -/
def liveToken (continuationToken : Option String) : Option String :=
  continuationToken.filter fun token => token ≠ ""

def pageKeys (response : ListObjectsV2Output) : List String :=
  (response.contents.getD []).map fun object => object.key.getD ""

def s3ListBucketObjects (keyPrefix continuationToken : Option String) :
    Action σ ApiError (List String × Option String) := do
  let response ← server.listObjectsV2 access
    { keyPrefix, bucket := access.bucket, continuationToken := liveToken continuationToken }
  pure (pageKeys response, response.nextContinuationToken)

def s3DeleteBucketObject (objectKey : String) : Action σ ApiError Unit :=
  server.deleteObject access objectKey

/-- The `while` loop from a token and a count on, for as many turns as it may take. The result is
the count, or none where the loop would turn once more. -/
def deletePages (keyPrefix : String) : Nat → Option String → Nat → Action σ ApiError (Option Nat)
  | turns, continuationToken, count =>
      match liveToken continuationToken with
      | none => pure (some count)
      | some _ =>
          match turns with
          | 0 => pure none
          | turns + 1 => do
              let response ← s3ListBucketObjects server access (some keyPrefix) continuationToken
              each response.1 (s3DeleteBucketObject server access)
              deletePages keyPrefix turns response.2 (count + response.1.length)

def deleteAllWithPrefix (keyPrefix : String) (turns : Nat) : Action σ ApiError (Option Nat) :=
  deletePages server access keyPrefix turns (some "") 0

/-! ### The pages from a token on -/

/-- Listing from the token on gives these pages while nothing is deleted. -/
inductive PagesAhead (keyPrefix : String) (state : σ) : Option String → List (List String) → Prop
  | last {token : Option String} {response : ListObjectsV2Output}
      (listed : Returns (server.listObjectsV2 access
        { keyPrefix := some keyPrefix, bucket := access.bucket, continuationToken := token })
        state response state)
      (ended : liveToken response.nextContinuationToken = none) :
      PagesAhead keyPrefix state token [pageKeys response]
  | more {token : Option String} {response : ListObjectsV2Output} {next : String}
      {rest : List (List String)}
      (listed : Returns (server.listObjectsV2 access
        { keyPrefix := some keyPrefix, bucket := access.bucket, continuationToken := token })
        state response state)
      (goesOn : liveToken response.nextContinuationToken = some next)
      (ahead : PagesAhead keyPrefix state (some next) rest) :
      PagesAhead keyPrefix state token (pageKeys response :: rest)

/-- The keys of the bucket lost these; other buckets are as they were. -/
def Deleted (before after : σ) (deleted : List String) : Prop :=
  ∀ bucket, server.keys after bucket =
    if bucket = access.bucket then server.keys before bucket \ deleted.toFinset
    else server.keys before bucket

/-- The pages list every key under the prefix once. A delete removes its key, and leaves the pages
ahead that do not list it as they are. -/
structure PagesOnce (keyPrefix : String) : Prop where
  start : ∀ state, ∃ pages, PagesAhead server access keyPrefix state none pages ∧
    pages.flatten.Nodup ∧ ∀ key, key ∈ pages.flatten ↔
      key ∈ server.keys state access.bucket ∧ keyPrefix.toList <+: key.toList
  deleted : ∀ state key, ∃ after, Returns (server.deleteObject access key) state () after ∧
    Deleted server access state after [key] ∧
    ∀ token pages, PagesAhead server access keyPrefix state token pages →
      key ∉ pages.flatten → PagesAhead server access keyPrefix after token pages

variable {server access}

/-! ### The call -/

variable (server access)

/-- The call ends, and where it returns it deleted the keys under the prefix and counted them. -/
structure DeletesAll (keyPrefix : String) (before : σ) : Prop where
  ends : ∃ turns, (deleteAllWithPrefix server access keyPrefix turns before).1 ≠ .ok none
  deletes : ∀ turns count after,
    Returns (deleteAllWithPrefix server access keyPrefix turns) before (some count) after →
      server.keys after access.bucket = (server.keys before access.bucket).filter
          (fun key => ¬ keyPrefix.toList <+: key.toList) ∧
        (∀ bucket, bucket ≠ access.bucket → server.keys after bucket = server.keys before bucket) ∧
        count = ((server.keys before access.bucket).filter
          fun key => keyPrefix.toList <+: key.toList).card

/-- The loop never turns. -/
theorem deleteAllWithPrefix_returns (keyPrefix : String) (turns : Nat) (before : σ) :
    Returns (deleteAllWithPrefix server access keyPrefix turns) before (some 0) before := by
  unfold deleteAllWithPrefix deletePages
  rfl

/-- The call does what it is for exactly where there is nothing to delete. -/
theorem deletesAll_iff (keyPrefix : String) (before : σ) :
    DeletesAll server access keyPrefix before ↔
      ∀ key ∈ server.keys before access.bucket, ¬ keyPrefix.toList <+: key.toList := by
  constructor
  · intro deletesAll
    have counted := (deletesAll.deletes 0 0 before
      (deleteAllWithPrefix_returns server access keyPrefix 0 before)).2.2
    exact Finset.filter_eq_empty_iff.mp (Finset.card_eq_zero.mp counted.symm)
  · intro nothing
    refine ⟨⟨0, ?_⟩, ?_⟩
    · exact fun equal => by cases equal
    · intro turns count after returned
      rw [Returns, deleteAllWithPrefix_returns server access keyPrefix turns before] at returned
      cases returned
      refine ⟨(Finset.filter_true_of_mem nothing).symm, fun _ _ => rfl, ?_⟩
      rw [Finset.filter_false_of_mem nothing, Finset.card_empty]

/-! ### Uninstalling -/

def appBundlePrefix (storagePrefix : Option String) (appIdentifier : String) : String :=
  let basePrefix := match storagePrefix.filter fun given => given ≠ "" with
    | some given => String.ofList (given.toList.reverse.dropWhile (· = '/')).reverse ++ "/"
    | none => ""
  basePrefix ++ "app-bundle-storage/" ++ appIdentifier ++ "/"

/-- The step of `uninstallApp` that is to delete the bundles; an error is logged. -/
def deleteAppBundles (storagePrefix : Option String) (appIdentifier : String) (turns : Nat) :
    Action σ ApiError Unit :=
  Action.tryCatch (do
      let _ ← deleteAllWithPrefix server access (appBundlePrefix storagePrefix appIdentifier) turns
      pure ())
    fun _ => pure ()

end Deleting

/-! ### A service with one bucket -/

def samplePage (keyPrefix : String) (state : List String) : List String :=
  (state.filter fun key => keyPrefix.toList <+: key.toList).dedup

/-- A service that holds one bucket, and lists it on one page. -/
def sampleS3 : S3Server (List String) where
  listObjectsV2 _ input state :=
    match input.continuationToken with
    | some _ => (.error (.serviceError "InvalidArgument"), state)
    | none => (.ok
        { contents := some ((samplePage (input.keyPrefix.getD "") state).map fun key => ⟨some key⟩)
          nextContinuationToken := none }, state)
  deleteObject _ key state := (.ok (), state.filter fun held => held ≠ key)
  keys state bucket := if bucket = "lombok" then state.toFinset else ∅

def sampleAccess : BucketAccess where
  accessKeyId := "access-key"
  secretAccessKey := "secret-key"
  endpoint := "https://s3.example.com"
  region := "auto"
  bucket := "lombok"

theorem pageKeys_sample (keys : List String) :
    pageKeys ⟨some (keys.map fun key => ⟨some key⟩), none⟩ = keys := by
  rw [pageKeys, Option.getD_some, List.map_map]
  exact List.map_id keys

theorem sampleS3_pagesAhead {keyPrefix : String} {state : List String} {token : Option String}
    {pages : List (List String)} :
    PagesAhead sampleS3 sampleAccess keyPrefix state token pages ↔
      token = none ∧ pages = [samplePage keyPrefix state] := by
  constructor
  · intro ahead
    cases token with
    | some token => cases ahead with
      | last listed => cases listed
      | more listed => cases listed
    | none => cases ahead with
      | last listed =>
          cases listed
          exact ⟨rfl, congrArg (fun keys => [keys]) (pageKeys_sample _)⟩
      | more listed goesOn =>
          cases listed
          cases goesOn
  · rintro ⟨rfl, rfl⟩
    have page := @PagesAhead.last _ sampleS3 sampleAccess keyPrefix state none _ rfl rfl
    rwa [pageKeys_sample] at page

theorem sampleS3_pagesOnce (keyPrefix : String) : PagesOnce sampleS3 sampleAccess keyPrefix := by
  constructor
  · intro state
    refine ⟨_, sampleS3_pagesAhead.mpr ⟨rfl, rfl⟩, ?_, ?_⟩
    · rw [List.flatten_singleton]
      exact List.nodup_dedup _
    · intro key
      simp [samplePage, sampleS3, sampleAccess]
  · intro state key
    refine ⟨_, rfl, ?_, ?_⟩
    · intro bucket
      by_cases own : bucket = "lombok"
      · simp [sampleS3, sampleAccess, own, List.toFinset_filter, Finset.ext_iff]
      · simp [sampleS3, sampleAccess, own]
    · intro token pages ahead apart
      obtain ⟨rfl, rfl⟩ := sampleS3_pagesAhead.mp ahead
      refine sampleS3_pagesAhead.mpr ⟨rfl, ?_⟩
      have kept : (state.filter fun held => held ≠ key).filter (fun held =>
          keyPrefix.toList <+: held.toList) =
            state.filter fun held => keyPrefix.toList <+: held.toList := by
        rw [List.filter_comm, List.filter_eq_self]
        intro held member
        rw [decide_eq_true_iff]
        rintro rfl
        exact apart (List.mem_flatten_of_mem (List.mem_singleton.mpr rfl)
          (List.mem_dedup.mpr member))
      unfold samplePage
      rw [kept]

/-- A bucket with one object keeps it. -/
theorem not_deletesAll : ¬ ∀ (σ : Type) (server : S3Server σ) (access : BucketAccess)
    (keyPrefix : String), PagesOnce server access keyPrefix →
      ∀ before, DeletesAll server access keyPrefix before := by
  intro always
  have deletesAll := always _ sampleS3 sampleAccess "app-bundle-storage/demo/"
    (sampleS3_pagesOnce _) ["app-bundle-storage/demo/ui/hash.zip"]
  rw [deletesAll_iff] at deletesAll
  exact absurd (deletesAll "app-bundle-storage/demo/ui/hash.zip" (by decide)) (by decide)

end Lombok.Storage
