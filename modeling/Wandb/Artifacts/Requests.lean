import Wandb.Artifacts.Paginators

/-!
# The requests an `ArtifactCollection` sends

`save()` is written as nested `try` blocks of method calls, each of which may raise. Seen from
the server it is simpler: a list of calls decided from the object before the first one is sent,
sent one after the other up to the first that raises. The queries the object sends between saves
(`load()`, and `artifacts()` through the `Artifacts` paginator) name the collection by what it
records as saved.

* `saveCalls`, `executeCalls`: the calls `save()` decides on, and a client that sends a list of
  calls until one raises.
* `save_eq`: `save()` as a chain of cases, one per call that may raise; it is built stage by
  stage from `updateCollection_eq`, `moveStage_eq`, `addStage_eq`, `deleteStage_eq`.
* **`save_executeCalls`**: `save()` changes the server and raises exactly as sending `saveCalls`
  does, once its type checks pass; a failed check raises, as a `CommError`, before any call.
* `jsonDumps`, `Artifacts.init`, `ArtifactCollection.artifacts`.
* **`run_queries_server`**: in every state of every run, `load()` finds the collection the server
  holds and `artifacts()` queries it by the name and the type the server has.
-/

namespace Wandb

namespace Artifacts

/-! ## The calls of `save()` -/

/-- The calls `save()` decides on once its type checks pass, in order. -/
def saveCalls (c : ArtifactCollection) : List Mutation :=
  let tagsToAdd := c.tags.filter (· ∉ c.savedTags)
  let tagsToDelete := c.savedTags.filter (· ∉ c.tags)
  -- the update always; the move when a sequence's type changed; each tag call when it has tags,
  -- naming the collection by the name `_update_collection` has just saved
  [.updateArtifactCollection c.name c.description] ++
    (if c.isSequence && c.savedType != c.type then [.moveArtifactCollection c.type] else []) ++
    (if !tagsToAdd.isEmpty then [.createArtifactCollectionTagAssignments c.name tagsToAdd]
      else []) ++
    (if !tagsToDelete.isEmpty then [.deleteArtifactCollectionTagAssignments c.name tagsToDelete]
      else [])

/-- The calls one after the other, up to the first that raises. -/
def executeCalls (fails : Mutation → Bool) : List Mutation → Server → Server × Option ApiError
  | [], s => (s, none)
  | m :: ms, s => if fails m then (s, some .commError) else executeCalls fails ms (s.apply m)

theorem execute_bind (fails : Mutation → Bool) (m : Mutation) (s : Server) (g : Server → Sys) :
    (execute fails m s >>= fun server => pure (g server)) =
      if fails m then .error .commError else .ok (g (s.apply m)) := by
  unfold execute; split <;> rfl

/-- A call sent only when `b` holds, then the rest. -/
theorem executeCalls_opt (fails : Mutation → Bool) (b : Bool) (m : Mutation) (rest : List Mutation)
    (s : Server) :
    executeCalls fails ((if b then [m] else []) ++ rest) s =
      if b && fails m then (s, some .commError)
      else executeCalls fails rest (if b then s.apply m else s) := by
  cases b <;> rfl

/-- A call sent only when `b` holds, last. -/
theorem executeCalls_opt_nil (fails : Mutation → Bool) (b : Bool) (m : Mutation) (s : Server) :
    executeCalls fails (if b then [m] else []) s =
      if b && fails m then (s, some .commError) else (if b then s.apply m else s, none) := by
  cases b <;> rfl

/-! ## `save()`, stage by stage -/

section Stages

variable (fails : Mutation → Bool) (st : Sys)

/-- The tag calls name the collection by its new name. -/
theorem afterMove_savedName : (afterMove st).obj.savedName = st.obj.name := by
  rw [afterMove_obj]

theorem afterAdd_savedName : (afterAdd st).obj.savedName = st.obj.name := by
  rw [afterAdd_obj, afterMove_savedName]

theorem updateCollection_eq : updateCollection fails st =
    if fails (.updateArtifactCollection st.obj.name st.obj.description) then .error .commError
    else .ok (afterUpdate st) :=
  execute_bind ..

theorem moveStage_eq :
    (if st.obj.isSequence && st.obj.savedType != st.obj.type then
        updateCollectionType fails (afterUpdate st) else pure (afterUpdate st)) =
      if (st.obj.isSequence && st.obj.savedType != st.obj.type) &&
        fails (.moveArtifactCollection st.obj.type) then .error .commError
      else .ok (afterMove st) := by
  unfold afterMove
  cases st.obj.isSequence && st.obj.savedType != st.obj.type
  · rfl
  · exact execute_bind ..

theorem addStage_eq :
    (if (st.obj.tags.filter (· ∉ st.obj.savedTags)).isEmpty then pure (afterMove st)
      else addTags fails (st.obj.tags.filter (· ∉ st.obj.savedTags)) (afterMove st)) =
      if !(st.obj.tags.filter (· ∉ st.obj.savedTags)).isEmpty && fails
        (.createArtifactCollectionTagAssignments st.obj.name
          (st.obj.tags.filter (· ∉ st.obj.savedTags))) then .error .commError
      else .ok (afterAdd st) := by
  unfold afterAdd addTags
  dsimp only
  rw [afterMove_savedName]
  cases (st.obj.tags.filter (· ∉ st.obj.savedTags)).isEmpty
  · exact execute_bind ..
  · rfl

theorem deleteStage_eq :
    (if (st.obj.savedTags.filter (· ∉ st.obj.tags)).isEmpty then pure (afterAdd st)
      else deleteTags fails (st.obj.savedTags.filter (· ∉ st.obj.tags)) (afterAdd st)) =
      if !(st.obj.savedTags.filter (· ∉ st.obj.tags)).isEmpty && fails
        (.deleteArtifactCollectionTagAssignments st.obj.name
          (st.obj.savedTags.filter (· ∉ st.obj.tags))) then .error .commError
      else .ok (afterDelete st) := by
  unfold afterDelete deleteTags
  dsimp only
  rw [afterAdd_savedName]
  cases (st.obj.savedTags.filter (· ∉ st.obj.tags)).isEmpty
  · exact execute_bind ..
  · rfl

theorem afterMove_server_eq : (afterMove st).server =
    if st.obj.isSequence && st.obj.savedType != st.obj.type then
      (afterUpdate st).server.apply (.moveArtifactCollection st.obj.type)
    else (afterUpdate st).server := by
  unfold afterMove; split <;> rfl

theorem afterAdd_server_eq : (afterAdd st).server =
    if !(st.obj.tags.filter (· ∉ st.obj.savedTags)).isEmpty then
      (afterMove st).server.apply (.createArtifactCollectionTagAssignments st.obj.name
        (st.obj.tags.filter (· ∉ st.obj.savedTags)))
    else (afterMove st).server := by
  unfold afterAdd
  dsimp only
  rw [afterMove_savedName]
  cases (st.obj.tags.filter (· ∉ st.obj.savedTags)).isEmpty <;> rfl

theorem afterDelete_server_eq : (afterDelete st).server =
    if !(st.obj.savedTags.filter (· ∉ st.obj.tags)).isEmpty then
      (afterAdd st).server.apply (.deleteArtifactCollectionTagAssignments st.obj.name
        (st.obj.savedTags.filter (· ∉ st.obj.tags)))
    else (afterAdd st).server := by
  unfold afterDelete
  dsimp only
  rw [afterAdd_savedName]
  cases (st.obj.savedTags.filter (· ∉ st.obj.tags)).isEmpty <;> rfl

/-- `saveCalls` sent by `executeCalls`, case by case as in `save_eq`. -/
theorem executeCalls_saveCalls :
    executeCalls fails (saveCalls st.obj) st.server =
      if fails (.updateArtifactCollection st.obj.name st.obj.description) then
        (st.server, some .commError)
      else if (st.obj.isSequence && st.obj.savedType != st.obj.type) &&
        fails (.moveArtifactCollection st.obj.type) then ((afterUpdate st).server, some .commError)
      else if !(st.obj.tags.filter (· ∉ st.obj.savedTags)).isEmpty && fails
        (.createArtifactCollectionTagAssignments st.obj.name
          (st.obj.tags.filter (· ∉ st.obj.savedTags))) then ((afterMove st).server, some .commError)
      else if !(st.obj.savedTags.filter (· ∉ st.obj.tags)).isEmpty && fails
        (.deleteArtifactCollectionTagAssignments st.obj.name
          (st.obj.savedTags.filter (· ∉ st.obj.tags))) then ((afterAdd st).server, some .commError)
      else ((afterDelete st).server, none) := by
  rw [afterDelete_server_eq, afterAdd_server_eq, afterMove_server_eq, saveCalls,
    List.append_assoc, List.append_assoc, List.singleton_append]
  simp only [executeCalls, executeCalls_opt, executeCalls_opt_nil]
  rfl

end Stages

section Validators

variable (validateArtifactName : String → Except ApiError String)
  (validateTags : List String → Except ApiError (List String))
  (validateArtifactType : String → String → Except String Unit)

/-- **What `save()` does**, one case per call that may raise. -/
theorem save_eq (fails : Mutation → Bool) (st : Sys) :
    save validateArtifactType fails st =
      match checkTypes validateArtifactType st.obj with
      | .error e => (st, some (normalizeExceptions e))
      | .ok () =>
        if fails (.updateArtifactCollection st.obj.name st.obj.description) then
          (st, some .commError)
        else if (st.obj.isSequence && st.obj.savedType != st.obj.type) &&
          fails (.moveArtifactCollection st.obj.type) then (afterUpdate st, some .commError)
        else if !(st.obj.tags.filter (· ∉ st.obj.savedTags)).isEmpty && fails
          (.createArtifactCollectionTagAssignments st.obj.name
            (st.obj.tags.filter (· ∉ st.obj.savedTags))) then (afterMove st, some .commError)
        else if !(st.obj.savedTags.filter (· ∉ st.obj.tags)).isEmpty && fails
          (.deleteArtifactCollectionTagAssignments st.obj.name
            (st.obj.savedTags.filter (· ∉ st.obj.tags))) then (afterAdd st, some .commError)
        else (afterSave st, none) := by
  unfold save
  dsimp only
  rcases checkTypes validateArtifactType st.obj with e | ⟨⟩
  · rfl
  dsimp only
  rw [updateCollection_eq]
  by_cases h₁ : fails (.updateArtifactCollection st.obj.name st.obj.description)
  · simp only [h₁, if_true, normalized_commError]
  simp only [h₁, if_false, Bool.false_eq_true]
  rw [moveStage_eq]
  by_cases h₂ : (st.obj.isSequence && st.obj.savedType != st.obj.type) &&
      fails (.moveArtifactCollection st.obj.type)
  · simp only [h₂, if_true, normalized_commError]
  simp only [h₂, if_false, Bool.false_eq_true]
  rw [addStage_eq]
  by_cases h₃ : !(st.obj.tags.filter (· ∉ st.obj.savedTags)).isEmpty && fails
      (.createArtifactCollectionTagAssignments st.obj.name
        (st.obj.tags.filter (· ∉ st.obj.savedTags)))
  · simp only [h₃, if_true, normalized_commError]
  simp only [h₃, if_false, Bool.false_eq_true]
  rw [deleteStage_eq]
  by_cases h₄ : !(st.obj.savedTags.filter (· ∉ st.obj.tags)).isEmpty && fails
      (.deleteArtifactCollectionTagAssignments st.obj.name
        (st.obj.savedTags.filter (· ∉ st.obj.tags)))
  · simp only [h₄, if_true, normalized_commError]
  simp only [h₄, if_false, Bool.false_eq_true]
  rfl

/-- **`save()` sends exactly `saveCalls`.** -/
theorem save_executeCalls (fails : Mutation → Bool) (st : Sys) :
    ((save validateArtifactType fails st).1.server, (save validateArtifactType fails st).2) =
      match checkTypes validateArtifactType st.obj with
      | .error e => (st.server, some (normalizeExceptions e))
      | .ok () => executeCalls fails (saveCalls st.obj) st.server := by
  rw [save_eq, executeCalls_saveCalls]
  rcases checkTypes validateArtifactType st.obj with e | ⟨⟩
  · rfl
  · dsimp only
    split_ifs <;> rfl

/-! ## The queries between saves -/

/-- `json.dumps` of a dict of strings that need no escaping. -/
def jsonDumps (d : List (String × String)) : String :=
  "\x7b" ++ ", ".intercalate (d.map fun (k, v) => "\"" ++ k ++ "\": \"" ++ v ++ "\"") ++ "\x7d"

set_option linter.dupNamespace false in
/-- `Artifacts(client, entity, project, collection_name, type, ...)`: tags and paginator. -/
def Artifacts.init (entity project collectionName type : String)
    (filters : Option (List (String × String)) := none) (order : Option String := none)
    (perPage : Nat := 50) (tags : List String := []) : List String × Paginator ArtifactEdge :=
  -- `tags` is given as a list
  let filters := filters.getD [("state", "COMMITTED")]
  (tags, .new [("project", .str project), ("entity", .str entity), ("order", .ofOption order),
    ("type", .str type), ("collection", .str collectionName), ("filters", .str (jsonDumps filters))]
    perPage)

/-- `ArtifactCollection.artifacts(per_page=50)`, by the saved name and type. -/
def ArtifactCollection.artifacts (entity project : String) (c : ArtifactCollection)
    (perPage : Nat := 50) : List String × Paginator ArtifactEdge :=
  Artifacts.init entity project c.savedName c.savedType none none perPage

/-- **In every state of every run, the queries address the server's collection.** -/
theorem run_queries_server (sourceArtifactCollectionType typename : String)
    -- the load query, as a server holding `s` answers it
    (answer : Server → String → String → Option (Option (Option CollectionAttrs)))
    (hanswer : ∀ s : Server, answer s s.type s.name = some (some (some (s.attrs typename))))
    (s₀ : Server) (isSequence : Bool) (evs : List Event) (entity project : String)
    (perPage : Nat) :
    let st := run validateArtifactName validateTags validateArtifactType evs (loaded s₀ isSequence)
    ArtifactCollection.load sourceArtifactCollectionType (answer st.server) st.obj.savedType
        st.obj.savedName =
        .ok (typename == sourceArtifactCollectionType, st.server.attrs typename) ∧
      (ArtifactCollection.artifacts entity project st.obj perPage).2 =
        .new [("project", .str project), ("entity", .str entity), ("order", .null),
          ("type", .str st.server.type), ("collection", .str st.server.name),
          ("filters", .str (jsonDumps [("state", "COMMITTED")]))] perPage := by
  intro st
  have hi : SavedInv st := savedInv_run validateArtifactName validateTags validateArtifactType evs
    (savedInv_loaded s₀ isSequence)
  refine ⟨?_, by rw [hi.name, hi.type]; rfl⟩
  rw [← hi.name, ← hi.type, ArtifactCollection.load, hanswer]
  rfl

/-- A server that answers the load query for its own collection only. -/
def holderAnswer (s : Server) (type name : String) : Option (Option (Option CollectionAttrs)) :=
  if type = s.type ∧ name = s.name then some (some (some (s.attrs "ArtifactSequence")))
  else some none

/-- Renamed to `e` and saved, then renamed to `f` unsaved. -/
theorem run_queries_server_renamed :
    (∀ s : Server, holderAnswer s s.type s.name = some (some (some (s.attrs "ArtifactSequence")))) ∧
      let st := run pure pure (fun _ _ => pure ()) [.setName "e", .save fun _ => false,
        .setName "f"] (loaded sampleServer true)
      ArtifactCollection.load "ArtifactSequence" (holderAnswer st.server) st.obj.savedType
          st.obj.savedName =
          .ok ("ArtifactSequence" == "ArtifactSequence", st.server.attrs "ArtifactSequence") ∧
        (ArtifactCollection.artifacts "u" "p" st.obj 50).2 =
          .new [("project", .str "p"), ("entity", .str "u"), ("order", .null),
            ("type", .str st.server.type), ("collection", .str st.server.name),
            ("filters", .str (jsonDumps [("state", "COMMITTED")]))] 50 :=
  have hanswer : ∀ s : Server,
      holderAnswer s s.type s.name = some (some (some (s.attrs "ArtifactSequence"))) :=
    fun _ => if_pos ⟨rfl, rfl⟩
  ⟨hanswer, run_queries_server pure pure (fun _ _ => pure ()) "ArtifactSequence" "ArtifactSequence"
    holderAnswer hanswer sampleServer true _ "u" "p" 50⟩

end Validators

end Artifacts

end Wandb
