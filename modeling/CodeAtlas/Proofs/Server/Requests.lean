import CodeAtlas.Proofs.Http.Parts
import CodeAtlas.Proofs.Server.Parameters
import CodeAtlas.Proofs.Text.Trim
import CodeAtlas.Server.Router

/-!
# What requests ask of a server

What is uploaded is read off a request alone, and so is the module that a request asks about. A request
that is no upload leaves a server as it was, whatever store it has.
-/

namespace CodeAtlas.Server

open Http (Request Response)

variable {σ : Type} [GraphStore σ]

section Uploads

def IsUpload (r : Request) : Prop := r.segments = ["", "projects", "upload"] ∧ r.method = "POST"

instance (r : Request) : Decidable (IsUpload r) := inferInstanceAs (Decidable (_ ∧ _))

/-- An upload is for the trimmed name of its project and holds the first part that has a file name. -/
structure Upload.Of (u : Upload) (r : Request) : Prop where
  project : ∃ name, valuesOf "projectName" (Http.parseForm r.query) = [name] ∧
    Text.Trims name.toList u.project.toList
  project_ne : u.project ≠ ""
  length_le : r.body.length ≤ 1024 * 1024 * 1024
  archive : ∃ boundary, r.contentType.bind Http.boundary? = some boundary ∧
    ∃ (before : List Http.Part) (part : Http.Part) (after : List Http.Piece),
      Http.parts boundary r.body = before.map .ok ++ .ok part :: after ∧
        (∀ p ∈ before, Http.fileName? p.headers = none) ∧
          (Http.fileName? part.headers).isSome ∧ part.data = u.archive

theorem firstFileWithin_eq_ok_some_iff (boundary : String) (body data : Http.Bytes) :
    Http.firstFileWithin uploadLimit boundary body = .ok (some data) ↔
      body.length ≤ 1024 * 1024 * 1024 ∧
        ∃ (before : List Http.Part) (part : Http.Part) (after : List Http.Piece),
          Http.parts boundary body = before.map .ok ++ .ok part :: after ∧
            (∀ p ∈ before, Http.fileName? p.headers = none) ∧
              (Http.fileName? part.headers).isSome ∧ part.data = data := by
  rw [← Http.firstFileOf_eq_ok_some_iff, ← Http.firstFile_eq, Http.firstFileWithin, uploadLimit]
  by_cases hlong : 1024 * 1024 * 1024 < body.length
  · rw [if_pos hlong]
    constructor
    · intro h
      cases h
    · intro h
      omega
  · rw [if_neg hlong]
    have hlength : body.length ≤ 1024 * 1024 * 1024 := by omega
    exact (and_iff_right hlength).symm

theorem readUpload_of {r : Request} {u : Upload} (h : u.Of r) : readUpload r = .ok u := by
  obtain ⟨⟨name, hvalues, htrims⟩, hne, hlength, boundary, hboundary, hfile⟩ := h
  have hproject : Text.trimmed name = u.project := (Text.trimmed_eq_iff _ _).mpr htrims
  have hname : readProjectName r.query = .ok (some name) :=
    (readProjectName_eq_ok_iff r.query (some name)).mpr hvalues
  have hempty : ¬ (Text.trimmed name).isEmpty := by
    rw [hproject, String.isEmpty_iff]
    exact hne
  have hread := (firstFileWithin_eq_ok_some_iff boundary r.body u.archive).mpr ⟨hlength, hfile⟩
  simp only [readUpload, hname, hboundary, hread, Option.getD_some]
  rw [if_neg hempty, hproject]

theorem of_readUpload {r : Request} {u : Upload} (h : readUpload r = .ok u) : u.Of r := by
  rw [readUpload] at h
  cases hname : readProjectName r.query with
  | error fault =>
    rw [hname] at h
    cases h
  | ok name? =>
    simp only [hname] at h
    cases hboundary : r.contentType.bind Http.boundary? with
    | none =>
      rw [hboundary] at h
      cases h
    | some boundary =>
      simp only [hboundary] at h
      by_cases hempty : (Text.trimmed (name?.getD "")).isEmpty
      · rw [if_pos hempty] at h
        cases h
      · rw [if_neg hempty] at h
        rw [String.isEmpty_iff] at hempty
        cases hread : Http.firstFileWithin uploadLimit boundary r.body with
        | error fault =>
          rw [hread] at h
          cases h
        | ok archive? =>
          cases archive? with
          | none =>
            rw [hread] at h
            cases h
          | some archive =>
            rw [hread] at h
            cases h
            obtain ⟨hlength, hfile⟩ := (firstFileWithin_eq_ok_some_iff _ _ _).mp hread
            rw [readProjectName_eq_ok_iff] at hname
            cases name? with
            | none => exact absurd rfl hempty
            | some name =>
              have htrims := (Text.trimmed_eq_iff name (Text.trimmed name)).mp rfl
              exact ⟨⟨name, hname, htrims⟩, hempty, hlength, boundary, hboundary, hfile⟩

theorem readUpload_eq_ok_iff (r : Request) (u : Upload) : readUpload r = .ok u ↔ u.Of r :=
  ⟨of_readUpload, readUpload_of⟩

theorem status_of_refused {r : Request} {refusal : Response} (h : readUpload r = .error refusal) :
    refusal.status = 400 := by
  rw [readUpload] at h
  split at h
  · cases h
    rfl
  · split at h
    · cases h
      rfl
    · dsimp only at h
      split at h
      · cases h
        rfl
      · split at h
        · cases h
          rfl
        · cases h
          rfl
        · cases h

theorem upload_of_refused (s : Server σ) {r : Request} {refusal : Response}
    (h : readUpload r = .error refusal) : s.upload r = (refusal, s) := by
  rw [upload, h]

theorem status_uploadResponse_error_ne (e : Error) : (uploadResponse (.error e)).status ≠ 200 := by
  have hserver : (errorResponse e).status ≠ 200 := by
    change (if e.isExternal then 502 else 500) ≠ 200
    split <;> decide
  cases e with
  | archive fault => exact show 400 ≠ 200 by decide
  | _ => exact hserver

theorem Route.ofSegments?_eq_upload_iff (segments : List String) :
    ofSegments? segments = some .upload ↔ segments = ["", "projects", "upload"] := by
  unfold ofSegments?
  split <;> simp_all

theorem respond_of_not_isUpload (s : Server σ) {r : Request} (h : ¬ IsUpload r) :
    (s.respond r).2 = s := by
  rw [respond]
  by_cases hoptions : r.method = "OPTIONS"
  · rw [if_pos hoptions]
  · rw [if_neg hoptions]
    change (s.dispatch r (Route.ofSegments? r.segments)).2 = s
    cases hroute : Route.ofSegments? r.segments with
    | none => rfl
    | some route =>
      rw [dispatch]
      by_cases htakes : route.takes r.method
      · rw [if_pos htakes]
        cases route with
        | upload =>
          have hsegments := (Route.ofSegments?_eq_upload_iff r.segments).mp hroute
          have hpost : r.method = "POST" := by simpa [Route.takes, Route.isPosted] using htakes
          exact absurd ⟨hsegments, hpost⟩ h
        | _ => rfl
      · rw [if_neg htakes]

theorem respond_of_isUpload (s : Server σ) {r : Request} (h : IsUpload r) :
    s.respond r = ((s.upload r).1.withHeaders openHeaders, (s.upload r).2) := by
  obtain ⟨hsegments, hmethod⟩ := h
  have hroute := (Route.ofSegments?_eq_upload_iff r.segments).mpr hsegments
  have hoptions : ¬ r.method = "OPTIONS" := by simp [hmethod]
  have hhead : ¬ r.method = "HEAD" := by simp [hmethod]
  have htakes : Route.takes .upload r.method := by simp [Route.takes, Route.isPosted, hmethod]
  rw [respond, if_neg hoptions, hroute, dispatch, if_pos htakes, handle]
  simp only [if_neg hhead]

end Uploads

section Reads

def Fetches (r : Request) (segments : List String) : Prop :=
  r.segments = segments ∧ (r.method = "GET" ∨ r.method = "HEAD")

def FetchesModule (r : Request) (id : String) : Prop :=
  ∃ encoded, encoded ≠ "" ∧ Fetches r ["", "graph", "module", encoded] ∧
    Http.decodePathPart encoded = some id

def AsksToExplain (r : Request) (id : String) : Prop :=
  ∃ encoded, encoded ≠ "" ∧ r.segments = ["", "explain", "module", encoded] ∧
    r.method = "POST" ∧ Http.decodePathPart encoded = some id

/-- What a client gets of an answer: no body, if it asks for headers only. -/
structure Gets (r : Request) (response answer : Response) : Prop where
  status_eq : response.status = answer.status
  body_eq : response.body = if r.method = "HEAD" then .empty else answer.body

theorem ne_options_of_takes {route : Route} {method : String} (h : route.takes method) :
    ¬ method = "OPTIONS" := by
  rintro rfl
  cases route <;> simp [Route.takes, Route.isPosted] at h

theorem gets_respond (s : Server σ) {r : Request} {route : Route}
    (hroute : Route.ofSegments? r.segments = some route) (htakes : route.takes r.method) :
    Gets r (s.respond r).1 (s.handle r route).1 := by
  rw [respond, if_neg (ne_options_of_takes htakes), hroute, dispatch, if_pos htakes]
  by_cases hhead : r.method = "HEAD"
  · simp only [if_pos hhead]
    exact ⟨rfl, (if_pos hhead).symm⟩
  · simp only [if_neg hhead]
    exact ⟨rfl, (if_neg hhead).symm⟩

variable {r : Request}

theorem Fetches.gets {segments : List String} (h : Fetches r segments) (s : Server σ)
    {route : Route} (hroute : Route.ofSegments? segments = some route)
    (hread : route.isPosted = false) : Gets r (s.respond r).1 (s.handle r route).1 := by
  obtain ⟨rfl, hmethod⟩ := h
  apply gets_respond s hroute
  rw [Route.takes, hread]
  simpa using hmethod

theorem FetchesModule.gets {id : String} (h : FetchesModule r id) (s : Server σ) :
    Gets r (s.respond r).1 (answerAbout id Json.ofDetail (GraphStore.moduleDetail id s.store)) := by
  obtain ⟨encoded, hne, hfetches, hid⟩ := h
  have hroute : Route.ofSegments? ["", "graph", "module", encoded] = some (.module encoded) :=
    if_neg (by rwa [String.isEmpty_iff])
  have hgets := hfetches.gets s hroute rfl
  have hhandle : s.handle r (.module encoded) =
      (answerAbout id Json.ofDetail (GraphStore.moduleDetail id s.store), s) := by
    rw [handle, read, withId, hid]
    · rfl
    · intro h
      cases h
  rwa [hhandle] at hgets

theorem AsksToExplain.gets {id : String} (h : AsksToExplain r id) (s : Server σ) :
    Gets r (s.respond r).1
      (answerAbout id Json.ofExplanation (Query.explain s.explainer id s.store)) := by
  obtain ⟨encoded, hne, hsegments, hmethod, hid⟩ := h
  have hroute : Route.ofSegments? r.segments = some (.explain encoded) := by
    rw [hsegments]
    exact if_neg (by rwa [String.isEmpty_iff])
  have htakes : Route.takes (.explain encoded) r.method := by
    rw [hmethod]
    rfl
  have hgets := gets_respond s hroute htakes
  have hhandle : s.handle r (.explain encoded) =
      (answerAbout id Json.ofExplanation (Query.explain s.explainer id s.store), s) := by
    rw [handle, read, withId, hid]
    intro h
    cases h
  rwa [hhandle] at hgets

end Reads

end CodeAtlas.Server
