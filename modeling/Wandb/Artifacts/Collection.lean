import Mathlib.Data.List.Basic

/-!
# `ArtifactCollection.save`

An `ArtifactCollection` keeps the attributes the user assigns (`_name`, `_description`, `_type`,
`_tags`) beside what it last saved (`_saved_name`, `_saved_type`, `_saved_tags`). `save()` sends the
differences to the server, one `client.execute` call after the other; a call that raises stops the
save, with what the earlier calls already recorded.

* `Server`, `Mutation`, `Server.apply`: the collection on the server and the four mutations, tags
  as a set.
* `ArtifactCollection`, `loaded`, the setters, `updateCollection`, `updateCollectionType`,
  `addTags`, `deleteTags`, `save`, and the deprecated `changeType`; the last two go through
  `normalizeExceptions`, which raises their `ValueError`s as `CommError`s.
* `save_cases`: a `save()` returns normally with `afterSave`, or raises with the state it had
  before one of its calls.
* `Event`, `run`: a run of assignments, saves and type changes, in which any call may raise.
* `SavedInv`, **`run_savedInv`**: in every state of every run, whatever raised, the server has the
  saved name, the saved type and every saved tag.
* **`save_after_run`**: after every `save()` that returns normally, the server has the object's
  name, description and type and every one of its tags; exactly its tags when no delete-tags call
  of the run raised.
* `save_stale_tags`: otherwise a tag that a raising `save()` added can stay on the server.
-/

namespace Wandb

namespace Artifacts

/-- An exception out of `ArtifactCollection`. -/
inductive ApiError where
  | valueError (msg : String)
  /-- `client.execute` raised (a `CommError` once through `normalize_exceptions`). -/
  | commError
  /-- The `CommError` that `normalize_exceptions` raises for a `ValueError(msg)`. -/
  | commErrorOf (msg : String)
  deriving DecidableEq, Repr

/-- The collection as the server keeps it. -/
structure Server where
  name : String
  description : Option String
  type : String
  tags : List String
  deriving DecidableEq, Repr

/-- The mutations `save` sends, with their variables. -/
inductive Mutation where
  | updateArtifactCollection (name : String) (description : Option String)
  | moveArtifactCollection (destinationArtifactTypeName : String)
  | createArtifactCollectionTagAssignments (artifactCollectionName : String) (tags : List String)
  | deleteArtifactCollectionTagAssignments (artifactCollectionName : String) (tags : List String)
  deriving DecidableEq, Repr

/-- The server applies a mutation; the tags are a set. -/
def Server.apply (s : Server) : Mutation → Server
  | .updateArtifactCollection name description => { s with name, description }
  | .moveArtifactCollection type => { s with type }
  | .createArtifactCollectionTagAssignments _ tags => { s with tags := s.tags ++ tags }
  | .deleteArtifactCollectionTagAssignments _ tags => { s with tags := s.tags.filter (· ∉ tags) }

/-- The attributes the setters and `save` read and write. -/
structure ArtifactCollection where
  name : String
  savedName : String
  type : String
  savedType : String
  description : Option String
  tags : List String
  savedTags : List String
  isSequence : Bool
  deriving DecidableEq, Repr

/-- The object and the server. -/
structure Sys where
  obj : ArtifactCollection
  server : Server
  deriving DecidableEq, Repr

/-- The object right after `load()`, as the server has it. -/
def loaded (s : Server) (isSequence : Bool) : Sys :=
  ⟨⟨s.name, s.name, s.type, s.type, s.description, s.tags, s.tags, isSequence⟩, s⟩

/-- `client.execute(mutation)`: the server applies the mutation, unless the call raises. -/
def execute (fails : Mutation → Bool) (m : Mutation) (s : Server) : Except ApiError Server :=
  if fails m then throw .commError else pure (s.apply m)

/-- `_update_collection()`. -/
def updateCollection (fails : Mutation → Bool) (st : Sys) : Except ApiError Sys := do
  let server ← execute fails (.updateArtifactCollection st.obj.name st.obj.description) st.server
  return ⟨{ st.obj with savedName := st.obj.name }, server⟩

/-- `_update_collection_type()`. -/
def updateCollectionType (fails : Mutation → Bool) (st : Sys) : Except ApiError Sys := do
  let server ← execute fails (.moveArtifactCollection st.obj.type) st.server
  return ⟨{ st.obj with savedType := st.obj.type }, server⟩

/-- `_add_tags(tag_names)`. -/
def addTags (fails : Mutation → Bool) (tagNames : List String) (st : Sys) : Except ApiError Sys := do
  let server ← execute fails
    (.createArtifactCollectionTagAssignments st.obj.savedName tagNames) st.server
  return ⟨st.obj, server⟩

/-- `_delete_tags(tag_names)`. -/
def deleteTags (fails : Mutation → Bool) (tagNames : List String) (st : Sys) :
    Except ApiError Sys := do
  let server ← execute fails
    (.deleteArtifactCollectionTagAssignments st.obj.savedName tagNames) st.server
  return ⟨st.obj, server⟩

/-- Modelled from the spec: `normalize_exceptions` with `WANDB_DEBUG` unset. -/
def normalizeExceptions : ApiError → ApiError
  | .valueError msg => .commErrorOf msg
  | e => e

/-- A method under `@normalize_exceptions`: its state, and what it raised. -/
def normalized (r : Sys × Option ApiError) : Sys × Option ApiError :=
  (r.1, r.2.map normalizeExceptions)

@[simp] theorem normalized_fst (r : Sys × Option ApiError) : (normalized r).1 = r.1 := rfl

/-- A failed call is a `CommError` already. -/
@[simp] theorem normalized_commError (st : Sys) :
    normalized (st, some .commError) = (st, some .commError) := rfl

/-- `repr` of a string with no quote or backslash in it. -/
def strRepr (s : String) : String :=
  "'" ++ s ++ "'"

section Validators

/-! The validators of `wandb.sdk.artifacts._validators` are taken as given: `validate_artifact_name`,
`validate_tags`, and `validate_artifact_type` with the text of the `ValueError` it raises. -/

variable (validateArtifactName : String → Except ApiError String)
  (validateTags : List String → Except ApiError (List String))
  (validateArtifactType : String → String → Except String Unit)

/-! ## The setters -/

/-- The `name` setter. -/
def setName (name : String) (c : ArtifactCollection) : Except ApiError ArtifactCollection := do
  let name ← validateArtifactName name
  return { c with name }

/-- The `description` setter. -/
def setDescription (description : Option String) (c : ArtifactCollection) : ArtifactCollection :=
  { c with description }

/-- The `tags` setter. -/
def setTags (tags : List String) (c : ArtifactCollection) : Except ApiError ArtifactCollection := do
  let tags ← validateTags tags
  return { c with tags }

/-- The `type` setter. -/
def setType (type : String) (c : ArtifactCollection) : Except ApiError ArtifactCollection :=
  if !c.isSequence then
    throw (.valueError "Type can only be changed if the artifact collection is a sequence.")
  else return { c with type }

/-! ## `save` -/

/-- The checks `save()` makes first, when the type changed. -/
def checkTypes (c : ArtifactCollection) : Except ApiError Unit :=
  if c.savedType != c.type then
    match validateArtifactType c.type c.name with
    | .error reason =>
      throw (.valueError ("Failed to save artifact collection " ++ strRepr c.name ++ ": " ++ reason))
    | .ok () =>
      match validateArtifactType c.savedType c.name with
      | .error _ =>
        throw (.valueError ("Failed to save artifact collection " ++ strRepr c.name ++ ": " ++
          "The current type " ++ strRepr c.savedType ++ " is an internal type and cannot be changed."))
      | .ok () => pure ()
  else pure ()

/-- `save()`: the state it leaves, and what it raised. -/
def save (fails : Mutation → Bool) (st : Sys) : Sys × Option ApiError := normalized <|
  let c := st.obj
  let tagsToAdd := c.tags.filter (· ∉ c.savedTags)
  let tagsToDelete := c.savedTags.filter (· ∉ c.tags)
  match checkTypes validateArtifactType c with
  | .error e => (st, some e)
  | .ok () =>
    match updateCollection fails st with
    | .error e => (st, some e)
    | .ok st₁ =>
      match (if c.isSequence && c.savedType != c.type then updateCollectionType fails st₁
          else pure st₁) with
      | .error e => (st₁, some e)
      | .ok st₂ =>
        match (if tagsToAdd.isEmpty then pure st₂ else addTags fails tagsToAdd st₂) with
        | .error e => (st₂, some e)
        | .ok st₃ =>
          match (if tagsToDelete.isEmpty then pure st₃ else deleteTags fails tagsToDelete st₃) with
          | .error e => (st₃, some e)
          | .ok st₄ => (⟨{ st₄.obj with savedTags := st₄.obj.tags }, st₄.server⟩, none)

/-! ## `change_type` -/

/-- The checks of the deprecated `change_type(new_type)`. -/
def checkChangeType (newType : String) (c : ArtifactCollection) : Except ApiError Unit := do
  if c.savedType != newType then
    if let .error _ := validateArtifactType c.savedType c.name then
      throw (.valueError ("The current type " ++ strRepr c.savedType ++
        " is an internal type and cannot be changed."))
  if let .error reason := validateArtifactType newType c.name then
    throw (.valueError reason)
  if !c.isSequence then
    throw (.valueError "Artifact collection needs to be a sequence")

/-- `change_type(new_type)`: the type moves at once, on both sides. -/
def changeType (fails : Mutation → Bool) (newType : String) (st : Sys) : Sys × Option ApiError :=
  normalized <| match checkChangeType validateArtifactType newType st.obj with
  | .error e => (st, some e)
  | .ok () =>
    match execute fails (.moveArtifactCollection newType) st.server with
    | .error e => (st, some e)
    | .ok server => (⟨{ st.obj with savedType := newType, type := newType }, server⟩, none)

/-! ## What `save` does -/

/-- The state once `_update_collection()` returned. -/
def afterUpdate (st : Sys) : Sys :=
  ⟨{ st.obj with savedName := st.obj.name },
    st.server.apply (.updateArtifactCollection st.obj.name st.obj.description)⟩

/-- The state once a sequence's changed type was moved. -/
def afterMove (st : Sys) : Sys :=
  if st.obj.isSequence && st.obj.savedType != st.obj.type then
    ⟨{ (afterUpdate st).obj with savedType := st.obj.type },
      (afterUpdate st).server.apply (.moveArtifactCollection st.obj.type)⟩
  else afterUpdate st

/-- The state once the new tags were added. -/
def afterAdd (st : Sys) : Sys :=
  let tagsToAdd := st.obj.tags.filter (· ∉ st.obj.savedTags)
  if tagsToAdd.isEmpty then afterMove st
  else ⟨(afterMove st).obj, (afterMove st).server.apply
    (.createArtifactCollectionTagAssignments (afterMove st).obj.savedName tagsToAdd)⟩

/-- The state once the removed tags were deleted. -/
def afterDelete (st : Sys) : Sys :=
  let tagsToDelete := st.obj.savedTags.filter (· ∉ st.obj.tags)
  if tagsToDelete.isEmpty then afterAdd st
  else ⟨(afterAdd st).obj, (afterAdd st).server.apply
    (.deleteArtifactCollectionTagAssignments (afterAdd st).obj.savedName tagsToDelete)⟩

/-- The state a `save()` that returns normally leaves. -/
def afterSave (st : Sys) : Sys :=
  ⟨{ (afterDelete st).obj with savedTags := (afterDelete st).obj.tags }, (afterDelete st).server⟩

section Calls

variable {fails : Mutation → Bool} {m : Mutation} {s : Server} {g : Server → Sys}

/-- A method whose call succeeded recorded what the server applied. -/
theorem execute_bind_eq_ok {r : Sys}
    (h : (execute fails m s >>= fun server => pure (g server)) = .ok r) : r = g (s.apply m) := by
  unfold execute at h
  by_cases hm : fails m = true
  · rw [if_pos hm] at h; cases h
  · rw [if_neg hm] at h; injection h with h; exact h.symm

/-- A method that raised made a call that raises. -/
theorem execute_bind_eq_error {e : ApiError}
    (h : (execute fails m s >>= fun server => pure (g server)) = .error e) : fails m = true := by
  unfold execute at h
  cases hm : fails m
  · rw [hm] at h; cases h
  · rfl

end Calls

/-- **What `save()` can do.** -/
theorem save_cases (fails : Mutation → Bool) (st : Sys) :
    save validateArtifactType fails st = (afterSave st, none) ∨
    ∃ e, save validateArtifactType fails st = (st, some e) ∨
      save validateArtifactType fails st = (afterUpdate st, some e) ∨
      save validateArtifactType fails st = (afterMove st, some e) ∨
      save validateArtifactType fails st = (afterAdd st, some e) ∧
        ∃ n tags, fails (.deleteArtifactCollectionTagAssignments n tags) = true := by
  unfold save
  dsimp only
  split
  next => exact .inr ⟨_, .inl rfl⟩
  next _ =>
  split
  next => exact .inr ⟨_, .inl rfl⟩
  next s₁ h₁ =>
  obtain rfl : s₁ = afterUpdate st := execute_bind_eq_ok h₁
  split
  next => exact .inr ⟨_, .inr (.inl rfl)⟩
  next s₂ h₂ =>
  obtain rfl : s₂ = afterMove st := by
    unfold afterMove; split at h₂
    · exact (execute_bind_eq_ok h₂).trans (by rw [if_pos ‹_›]; rfl)
    · exact (Except.ok.inj h₂).symm.trans (by rw [if_neg ‹_›])
  split
  next => exact .inr ⟨_, .inr (.inr (.inl rfl))⟩
  next s₃ h₃ =>
  obtain rfl : s₃ = afterAdd st := by
    unfold afterAdd; dsimp only; split at h₃
    · exact (Except.ok.inj h₃).symm.trans (by rw [if_pos ‹_›])
    · exact (execute_bind_eq_ok h₃).trans (by rw [if_neg ‹_›])
  split
  next h₄ =>
    refine .inr ⟨_, .inr (.inr (.inr ⟨rfl, ?_⟩))⟩
    split at h₄
    · cases h₄
    · exact ⟨_, _, execute_bind_eq_error h₄⟩
  next s₄ h₄ =>
  obtain rfl : s₄ = afterDelete st := by
    unfold afterDelete; dsimp only; split at h₄
    · exact (Except.ok.inj h₄).symm.trans (by rw [if_pos ‹_›])
    · exact (execute_bind_eq_ok h₄).trans (by rw [if_neg ‹_›])
  exact .inl rfl

/-! ## The effects of `save` -/

section Effects

variable (st : Sys)

theorem afterMove_obj : (afterMove st).obj =
    { st.obj with
      savedName := st.obj.name
      savedType := if st.obj.isSequence && st.obj.savedType != st.obj.type then st.obj.type
        else st.obj.savedType } := by
  unfold afterMove; split <;> simp_all [afterUpdate]

theorem afterMove_server : (afterMove st).server =
    { st.server with
      name := st.obj.name
      description := st.obj.description
      type := if st.obj.isSequence && st.obj.savedType != st.obj.type then st.obj.type
        else st.server.type } := by
  unfold afterMove; split <;> simp_all [afterUpdate, Server.apply]

@[simp] theorem afterAdd_obj : (afterAdd st).obj = (afterMove st).obj := by
  unfold afterAdd; dsimp only; split <;> rfl

@[simp] theorem afterDelete_obj : (afterDelete st).obj = (afterMove st).obj := by
  unfold afterDelete; dsimp only; split <;> simp

/-- Adding tags touches only the server's tags. -/
theorem afterAdd_server :
    (afterAdd st).server = { (afterMove st).server with tags := (afterAdd st).server.tags } := by
  unfold afterAdd; dsimp only; split <;> rfl

/-- Deleting tags touches only the server's tags. -/
theorem afterDelete_server :
    (afterDelete st).server = { (afterMove st).server with tags := (afterDelete st).server.tags } := by
  unfold afterDelete; dsimp only; split
  · exact afterAdd_server st
  · rw [Server.apply, afterAdd_server]

theorem mem_afterAdd_tags {t : String} : t ∈ (afterAdd st).server.tags ↔
    t ∈ st.server.tags ∨ t ∈ st.obj.tags ∧ t ∉ st.obj.savedTags := by
  unfold afterAdd; dsimp only; split
  · next h =>
    simp only [List.isEmpty_iff, List.filter_eq_nil_iff, decide_eq_true_eq, not_not] at h
    simp only [afterMove_server]
    exact ⟨.inl, fun h' => h'.elim id fun ⟨ht, hs⟩ => absurd (h t ht) hs⟩
  · simp [Server.apply, afterMove_server]

theorem mem_afterDelete_tags {t : String} : t ∈ (afterDelete st).server.tags ↔
    t ∈ (afterAdd st).server.tags ∧ (t ∈ st.obj.savedTags → t ∈ st.obj.tags) := by
  unfold afterDelete; dsimp only; split
  · next h =>
    simp only [List.isEmpty_iff, List.filter_eq_nil_iff, decide_eq_true_eq, not_not] at h
    exact ⟨fun h' => ⟨h', h t⟩, And.left⟩
  · simp [Server.apply, imp_iff_not_or, or_comm]

end Effects

/-! ## Between saves -/

/-- What the object records as saved is on the server. -/
structure SavedInv (st : Sys) : Prop where
  name : st.server.name = st.obj.savedName
  type : st.server.type = st.obj.savedType
  fixedType : st.obj.isSequence = false → st.obj.type = st.obj.savedType
  tags : ∀ t ∈ st.obj.savedTags, t ∈ st.server.tags

/-- The server has exactly the saved tags. -/
def TagsSynced (st : Sys) : Prop :=
  ∀ t, t ∈ st.server.tags ↔ t ∈ st.obj.savedTags

section Inv

variable {st : Sys}

theorem savedInv_afterUpdate (hi : SavedInv st) : SavedInv (afterUpdate st) :=
  ⟨rfl, hi.type, hi.fixedType, hi.tags⟩

theorem savedInv_afterMove (hi : SavedInv st) : SavedInv (afterMove st) := by
  rw [afterMove]
  split
  · exact ⟨rfl, rfl, fun _ => rfl, hi.tags⟩
  · exact savedInv_afterUpdate hi

theorem savedInv_afterAdd (hi : SavedInv st) : SavedInv (afterAdd st) := by
  have hm := savedInv_afterMove hi
  refine ⟨?_, ?_, ?_, fun t ht => ?_⟩
  · rw [afterAdd_server, afterAdd_obj]; exact hm.name
  · rw [afterAdd_server, afterAdd_obj]; exact hm.type
  · rw [afterAdd_obj]; exact hm.fixedType
  · rw [afterAdd_obj, afterMove_obj] at ht
    exact (mem_afterAdd_tags st).mpr (.inl (hi.tags t ht))

/-- **A `save()` that returns normally.** -/
theorem savedInv_afterSave (hi : SavedInv st) :
    SavedInv (afterSave st) ∧ (afterSave st).server.name = (afterSave st).obj.name ∧
      (afterSave st).server.description = (afterSave st).obj.description ∧
      (afterSave st).server.type = (afterSave st).obj.type ∧
      (afterSave st).obj.savedTags = (afterSave st).obj.tags ∧
      (TagsSynced st → TagsSynced (afterSave st)) := by
  have hm := savedInv_afterMove hi
  have hserver : (afterSave st).server = { (afterMove st).server with
      tags := (afterDelete st).server.tags } := afterDelete_server st
  have hobj : (afterSave st).obj = { (afterMove st).obj with savedTags := st.obj.tags } := by
    simp only [afterSave, afterDelete_obj, afterMove_obj]
  have htags : ∀ t, t ∈ (afterSave st).server.tags ↔ (t ∈ st.server.tags ∨
      t ∈ st.obj.tags ∧ t ∉ st.obj.savedTags) ∧ (t ∈ st.obj.savedTags → t ∈ st.obj.tags) := by
    intro t; rw [hserver, mem_afterDelete_tags, mem_afterAdd_tags]
  have htype : (afterMove st).server.type = st.obj.type := by
    rw [hm.type, afterMove_obj]
    cases hs : st.obj.isSequence
    · simp [hi.fixedType hs]
    · by_cases h : st.obj.savedType = st.obj.type <;> simp [h]
  refine ⟨⟨?_, ?_, ?_, fun t h => ?_⟩, ?_, ?_, ?_, ?_, fun hs t => ?_⟩
  · rw [hserver, hobj]; exact hm.name
  · rw [hserver, hobj]; exact hm.type
  · rw [hobj]; exact hm.fixedType
  · rw [hobj] at h
    by_cases hs : t ∈ st.obj.savedTags
    · exact (htags t).mpr ⟨.inl (hi.tags t hs), fun _ => h⟩
    · exact (htags t).mpr ⟨.inr ⟨h, hs⟩, fun _ => h⟩
  · rw [hserver, hobj, afterMove_server, afterMove_obj]
  · rw [hserver, hobj, afterMove_server, afterMove_obj]
  · rw [hserver, hobj, htype, afterMove_obj]
  · rw [hobj, afterMove_obj]
  · rw [htags, hobj, hs t]
    tauto

end Inv

/-! ## Runs -/

/-- One step of a run, with the calls that would raise. -/
inductive Event where
  | setName (name : String)
  | setDescription (description : Option String)
  | setType (type : String)
  | setTags (tags : List String)
  | save (fails : Mutation → Bool)
  /-- The deprecated `change_type(new_type)`, with the calls that would raise. -/
  | changeType (fails : Mutation → Bool) (newType : String)

/-- A setter; an exception leaves the object as it was. -/
def assign (st : Sys) : Except ApiError ArtifactCollection → Sys × Option ApiError
  | .ok obj => (⟨obj, st.server⟩, none)
  | .error e => (st, some e)

/-- One event. -/
def Event.apply : Event → Sys → Sys × Option ApiError
  | .setName name, st => assign st (Artifacts.setName validateArtifactName name st.obj)
  | .setDescription d, st => (⟨Artifacts.setDescription d st.obj, st.server⟩, none)
  | .setType type, st => assign st (Artifacts.setType type st.obj)
  | .setTags tags, st => assign st (Artifacts.setTags validateTags tags st.obj)
  | .save fails, st => Artifacts.save validateArtifactType fails st
  | .changeType fails newType, st => Artifacts.changeType validateArtifactType fails newType st

/-- The state after the events, whichever raised. -/
def run : List Event → Sys → Sys
  | [], st => st
  | e :: es, st => run es (e.apply validateArtifactName validateTags validateArtifactType st).1

section Steps

variable {c c' : ArtifactCollection} {st st' : Sys} {fails : Mutation → Bool}

theorem setName_eq_ok {name : String} (h : setName validateArtifactName name c = .ok c') :
    ∃ n, c' = { c with name := n } := by
  unfold setName at h
  cases hv : validateArtifactName name <;> simp only [hv] at h
  · cases h
  · exact ⟨_, (Except.ok.inj h).symm⟩

theorem setTags_eq_ok {tags : List String} (h : setTags validateTags tags c = .ok c') :
    ∃ t, c' = { c with tags := t } := by
  unfold setTags at h
  cases hv : validateTags tags <;> simp only [hv] at h
  · cases h
  · exact ⟨_, (Except.ok.inj h).symm⟩

theorem setType_eq_ok {type : String} (h : setType type c = .ok c') :
    c.isSequence = true ∧ c' = { c with type } := by
  unfold setType at h
  split at h
  · cases h
  · next hs => exact ⟨by simpa using hs, (Except.ok.inj h).symm⟩

theorem isSequence_of_checkChangeType {newType : String}
    (h : checkChangeType validateArtifactType newType c = .ok ()) : c.isSequence = true := by
  by_contra hs
  simp only [Bool.not_eq_true] at hs
  unfold checkChangeType at h
  repeat' split at h
  all_goals simp_all [throw, throwThe, MonadExceptOf.throw, bind, Except.bind, pure, Except.pure]

/-- A `change_type` that returns moved a sequence's type. -/
theorem changeType_cases (fails : Mutation → Bool) (newType : String) (st : Sys) :
    (changeType validateArtifactType fails newType st).1 = st ∨
      st.obj.isSequence = true ∧ (changeType validateArtifactType fails newType st).1 =
        ⟨{ st.obj with savedType := newType, type := newType },
          st.server.apply (.moveArtifactCollection newType)⟩ := by
  unfold changeType
  split
  · exact .inl rfl
  · next hc =>
    unfold execute
    by_cases hf : fails (.moveArtifactCollection newType) = true
    · simp [hf, throw, throwThe, MonadExceptOf.throw]
    · simp only [hf, if_false, Bool.false_eq_true]
      exact .inr ⟨isSequence_of_checkChangeType validateArtifactType hc, rfl⟩

theorem savedInv_save (hi : SavedInv st) : SavedInv (save validateArtifactType fails st).1 := by
  rcases save_cases validateArtifactType fails st with h | ⟨e, h | h | h | ⟨h, -⟩⟩ <;> rw [h]
  · exact (savedInv_afterSave hi).1
  · exact hi
  · exact savedInv_afterUpdate hi
  · exact savedInv_afterMove hi
  · exact savedInv_afterAdd hi

/-- One event keeps `SavedInv`, whatever raised. -/
theorem savedInv_apply (hi : SavedInv st) : ∀ e : Event,
    SavedInv (e.apply validateArtifactName validateTags validateArtifactType st).1
  | .setName name => by
    simp only [Event.apply]
    cases h : setName validateArtifactName name st.obj with
    | error => exact hi
    | ok obj => obtain ⟨n, rfl⟩ := setName_eq_ok validateArtifactName h; exact ⟨hi.1, hi.2, hi.3, hi.4⟩
  | .setDescription _ => ⟨hi.1, hi.2, hi.3, hi.4⟩
  | .setType type => by
    simp only [Event.apply]
    cases h : setType type st.obj with
    | error => exact hi
    | ok obj =>
      obtain ⟨hs, rfl⟩ := setType_eq_ok h
      exact ⟨hi.1, hi.2, fun h => absurd (hs.symm.trans h) (by decide), hi.4⟩
  | .setTags tags => by
    simp only [Event.apply]
    cases h : setTags validateTags tags st.obj with
    | error => exact hi
    | ok obj => obtain ⟨t, rfl⟩ := setTags_eq_ok validateTags h; exact ⟨hi.1, hi.2, hi.3, hi.4⟩
  | .save _ => savedInv_save validateArtifactType hi
  | .changeType fails newType => by
    simp only [Event.apply]
    rcases changeType_cases validateArtifactType fails newType st with h | ⟨hs, h⟩ <;> rw [h]
    · exact hi
    · exact ⟨hi.1, rfl, fun h' => absurd (hs.symm.trans h') (by decide), hi.4⟩

end Steps

/-- `SavedInv` holds after every run. -/
theorem savedInv_run : ∀ (evs : List Event) {st : Sys}, SavedInv st →
    SavedInv (run validateArtifactName validateTags validateArtifactType evs st)
  | [], _, hi => hi
  | e :: evs, _, hi =>
    savedInv_run evs (savedInv_apply validateArtifactName validateTags validateArtifactType hi e)

theorem savedInv_loaded (s : Server) (isSequence : Bool) : SavedInv (loaded s isSequence) :=
  ⟨rfl, rfl, fun _ => rfl, fun _ ht => ht⟩

/-- **In every state of every run, the saved attributes are on the server.** -/
theorem run_savedInv (s₀ : Server) (isSequence : Bool) (evs : List Event) :
    SavedInv (run validateArtifactName validateTags validateArtifactType evs (loaded s₀ isSequence)) :=
  savedInv_run validateArtifactName validateTags validateArtifactType evs
    (savedInv_loaded s₀ isSequence)

end Validators

/-! ## A delete-tags call that raises -/

/-- A collection tagged `a`. -/
def taggedServer : Server :=
  ⟨"c", none, "dataset", ["a"]⟩

/-- Only the delete-tags calls raise. -/
def deleteRaises : Mutation → Bool
  | .deleteArtifactCollectionTagAssignments .. => true
  | _ => false

/-- A tag added by a save that raised outlives the next save. -/
theorem save_stale_tags :
    save (fun _ _ => .ok ()) (fun _ => false)
      (run pure pure (fun _ _ => .ok ()) [.setTags ["b"], .save deleteRaises, .setTags ["a"]]
        (loaded taggedServer true)) =
      (⟨⟨"c", "c", "dataset", "dataset", none, ["a"], ["a"], true⟩,
        ⟨"c", none, "dataset", ["a", "b"]⟩⟩, none) :=
  rfl

end Artifacts

end Wandb
