import Wandb.Python.Ast
import Wandb.Graphlib.Sorter
import Wandb.Artifacts.Load

/-!
# The paginators of `artifacts.py`

`ArtifactTypes`, `ArtifactCollections`, `Artifacts`, `RunArtifacts` and `ArtifactFiles` read a
GraphQL connection one page at a time. Each keeps the variables of its query and the last page
it parsed (`last_response`): `more` and `cursor` read that page, `update_variables` binds the
cursor among the variables, `_update_response` sends the query and keeps the connection it reads
out of the response or raises, and `convert_objects` builds the objects of the page. The loop that
calls them is in the base class `Paginator`, which is not under src/; it is modelled from the
specification (`fetchPage`, `fetchAll`).

* `PageInfo`, `Connection`, `Paginator`, and what the five classes share: `Paginator.more`,
  `Paginator.cursor`, `Paginator.update`, `Paginator.store`, `Paginator.convertWith`.
* Per class: `updateVariables`, `updateResponse` and `convertObjects`; `updateResponse_eq_error`:
  the exception each `_update_response` raises on a response of the wrong shape.
* `fetchPage`, `fetchAll`: a page fetch, and iteration.
* `pageAfter`, `Chained`: a server that serves the pages of a collection in order;
  `fetchAll_of_chained`: iteration fetches the chain when each fetch returns the next page.
* **`fetchAll_chained`**: each of three classes fetches every page once, in order, and stops.
* **`convertObjects_requiredTags`**: the list `Artifacts.convert_objects` returns.
* **`convertObjects_loaded`**: `ArtifactCollections.convert_objects` loads one collection per node.
-/

namespace Wandb

namespace Artifacts

/-! ## Pages -/

/-- `PageInfo`. -/
structure PageInfo where
  hasNextPage : Bool
  endCursor : Option String
  deriving DecidableEq, Repr

/-- A `*Connection` fragment: its page info and its edges. -/
structure Connection (ε : Type) where
  pageInfo : PageInfo
  edges : List ε
  deriving DecidableEq, Repr

/-- A value of a query variable. -/
inductive Var where
  | str (s : String)
  | int (n : Nat)
  | null
  deriving DecidableEq, Repr

/-- A `str | None` as a query variable. -/
def Var.ofOption : Option String → Var
  | some s => .str s
  | none => .null

/-- An exception out of `_update_response`. -/
inductive PageError where
  | valueError (msg : String)
  /-- An attribute read on `None`: `AttributeError`. -/
  | attributeError (attr : String)
  /-- `None[key]`: `TypeError`. -/
  | typeError
  /-- `model_validate(None)`: a pydantic `ValidationError`. -/
  | validationError
  deriving DecidableEq, Repr

/-- What a paginator keeps: `variables`, `per_page`, `last_response`. -/
structure Paginator (ε : Type) where
  variableValues : List (String × Var)
  perPage : Nat
  lastResponse : Option (Connection ε)
  deriving DecidableEq, Repr

namespace Paginator

variable {ε ο : Type}

/-- Modelled from the spec: `Paginator.__init__`, no page fetched yet. -/
def new (variableValues : List (String × Var)) (perPage : Nat) : Paginator ε :=
  ⟨variableValues, perPage, none⟩

/-- `more`, alike in the five classes. -/
def more (p : Paginator ε) : Bool :=
  match p.lastResponse with
  | none => true
  | some r => r.pageInfo.hasNextPage

/-- `cursor`, alike in the five classes. -/
def cursor (p : Paginator ε) : Option String :=
  match p.lastResponse with
  | none => none
  | some r => r.pageInfo.endCursor

/-- `self.variables.update(vars)`. -/
def update (p : Paginator ε) (vars : List (String × Var)) : Paginator ε :=
  { p with variableValues := vars.foldl (fun d kv => dictSet d kv.1 kv.2) p.variableValues }

/-- The end of `_update_response`: keep the connection, or raise. -/
def store (p : Paginator ε) : Except PageError (Connection ε) → Except PageError (Paginator ε)
  | .ok conn => pure { p with lastResponse := some conn }
  | .error e => throw e

/-- `convert_objects`: nothing before the first page. -/
def convertWith (f : Connection ε → List ο) (p : Paginator ε) : List ο :=
  match p.lastResponse with
  | none => []
  | some r => f r

/-- The non-null nodes of the last page. -/
def nodes {ν : Type} (p : Paginator (Option ν)) : List ν :=
  p.convertWith fun r => r.edges.filterMap id

@[simp] theorem update_lastResponse (p : Paginator ε) (vars : List (String × Var)) :
    (p.update vars).lastResponse = p.lastResponse := rfl

@[simp] theorem update_perPage (p : Paginator ε) (vars : List (String × Var)) :
    (p.update vars).perPage = p.perPage := rfl

@[simp] theorem cursor_update (p : Paginator ε) (vars : List (String × Var)) :
    (p.update vars).cursor = p.cursor := rfl

end Paginator

/-- `ValueError(f"Unable to parse {nameof(type(self))!r} response data")`. -/
def unableToParse (cls : String) : PageError :=
  .valueError ("Unable to parse " ++ strRepr cls ++ " response data")

/-- The walrus chain of `_update_response`: a null raises. -/
def parseConnection {ε : Type} (cls : String) : Option (Connection ε) →
    Except PageError (Connection ε)
  | some conn => pure conn
  | none => throw (unableToParse cls)

/-- The value of a cursor variable, as a server reads it. -/
def cursorIn (vars : List (String × Var)) (key : String) : Option String :=
  match vars.lookup key with
  | some (.str s) => some s
  | _ => none

theorem cursorIn_update_ofOption (vars : List (String × Var)) (key : String) (c : Option String) :
    cursorIn (dictSet vars key (.ofOption c)) key = c := by
  cases c <;> simp [cursorIn, lookup_dictSet, Var.ofOption]

/-! ## `ArtifactTypes` -/

section Classes

variable {ε : Type}

/-- `ArtifactTypes(client, entity, project, per_page=50)`. -/
def ArtifactTypes.init (entity project : String) (perPage : Nat := 50) :
    Paginator (Option ArtifactTypeFragment) :=
  .new [("entityName", .str entity), ("projectName", .str project)] perPage

/-- `ArtifactTypes.update_variables`. -/
def ArtifactTypes.updateVariables (p : Paginator ε) : Paginator ε :=
  p.update [("cursor", .ofOption p.cursor)]

/-- `ArtifactTypes._update_response`, `answer` being the server's response. -/
def ArtifactTypes.updateResponse
    (answer : List (String × Var) → Option (Option (Connection ε))) (p : Paginator ε) :
    Except PageError (Paginator ε) :=
  -- `project` and its `artifactTypes`, each possibly null
  p.store (parseConnection "ArtifactTypes" ((answer p.variableValues).bind id))

/-- `ArtifactCollections(client, entity, project, type_name, per_page=50)`. -/
def ArtifactCollections.init (entity project typeName : String) (perPage : Nat := 50) :
    Paginator (Option CollectionAttrs) :=
  .new [("entityName", .str entity), ("projectName", .str project),
    ("artifactTypeName", .str typeName)] perPage

/-- `ArtifactType.collections(per_page)`: `per_page` is not passed on. -/
def ArtifactType.collections (t : ArtifactType) (_perPage : Nat := 50) :
    Paginator (Option CollectionAttrs) :=
  ArtifactCollections.init t.entity t.project t.type

/-- `ArtifactCollections.update_variables`. -/
def ArtifactCollections.updateVariables (p : Paginator ε) : Paginator ε :=
  p.update [("cursor", .ofOption p.cursor)]

/-- `ArtifactCollections._update_response`. -/
def ArtifactCollections.updateResponse
    (answer : List (String × Var) → Option (Option (Option (Connection ε)))) (p : Paginator ε) :
    Except PageError (Paginator ε) :=
  -- `project`, its `artifactType` and that type's `artifactCollections`, each possibly null
  p.store (parseConnection "ArtifactCollections" (((answer p.variableValues).bind id).bind id))

/-- The project of an artifact sequence. -/
structure ProjectRef where
  entityName : String
  name : String
  deriving DecidableEq, Repr

/-- The artifact sequence of an artifact. -/
structure ArtifactSequenceRef where
  name : String
  project : Option ProjectRef
  deriving DecidableEq, Repr

/-- `ArtifactFragment`, the attributes the paginators read. -/
structure ArtifactFragment where
  versionIndex : Nat
  artifactSequence : Option ArtifactSequenceRef
  deriving DecidableEq, Repr

/-- An edge of `ArtifactsFragment`: the version alias, and the node. -/
structure ArtifactEdge where
  version : String
  node : Option ArtifactFragment
  deriving DecidableEq, Repr

set_option linter.dupNamespace false in
/-- `Artifacts._update_response`. -/
def Artifacts.updateResponse
    (answer : List (String × Var) → Option (Option (Option (Option (Connection ε)))))
    (p : Paginator ε) : Except PageError (Paginator ε) :=
  -- `project`, `artifactType`, `artifactCollection` and its `artifacts`, each possibly null
  p.store (parseConnection "Artifacts" ((((answer p.variableValues).bind id).bind id).bind id))

/-- `RunArtifacts(client, run, mode, per_page)`: run key and paginator. -/
def RunArtifacts.init (entity project runId : String) (mode : String := "logged")
    (perPage : Nat := 50) :
    Except PageError (String × Paginator (Option ArtifactFragment)) := do
  let runKey ← if mode = "logged" then pure "outputArtifacts"
    else if mode = "used" then pure "inputArtifacts"
    else throw (.valueError "mode must be logged or used")
  return (runKey,
    .new [("entity", .str entity), ("project", .str project), ("runName", .str runId)] perPage)

/-- `RunArtifacts._update_response`, `answer runKey` being the response. -/
def RunArtifacts.updateResponse
    (answer : String → List (String × Var) → Option (Option (Option (Connection ε))))
    (runKey : String) (p : Paginator ε) : Except PageError (Paginator ε) :=
  -- `data["project"]["run"][run_key]`, then `model_validate`
  p.store <| match answer runKey p.variableValues with
    | some (some (some conn)) => pure conn
    | some (some none) => throw .validationError
    | _ => throw .typeError

/-- `ArtifactFiles.update_variables`: page size and file cursor. -/
def ArtifactFiles.updateVariables (p : Paginator ε) : Paginator ε :=
  p.update [("fileLimit", .int p.perPage), ("fileCursor", .ofOption p.cursor)]

/-- The attributes `ArtifactFiles._update_response` reads below `result.project`. -/
def ArtifactFiles.connectionPath (queryViaMembership : Bool) : String × String × String :=
  if queryViaMembership then ("artifact_collection", "artifact_membership", "files")
  else ("artifact_type", "artifact", "files")

/-- `ArtifactFiles._update_response`. -/
def ArtifactFiles.updateResponse (queryViaMembership : Bool)
    (answer : List (String × Var) → Option (Option (Option (Option (Connection ε)))))
    (p : Paginator ε) : Except PageError (Paginator ε) :=
  let (a₁, a₂, a₃) := ArtifactFiles.connectionPath queryViaMembership
  -- an attribute read through a null raises `AttributeError`; a null `files`, `ValueError`
  p.store <| match answer p.variableValues with
    | none => throw (.attributeError a₁)
    | some none => throw (.attributeError a₂)
    | some (some none) => throw (.attributeError a₃)
    | some (some (some none)) => throw (unableToParse "ArtifactFiles")
    | some (some (some (some conn))) => pure conn

end Classes

/-! ## What the classes do with a response -/

section Response

variable {ε : Type}

theorem store_parseConnection (p : Paginator ε) (cls : String) (o : Option (Connection ε)) :
    p.store (parseConnection cls o) = match o with
      | some conn => .ok { p with lastResponse := some conn }
      | none => .error (unableToParse cls) := by
  cases o <;> rfl

/-- The walrus chains raise only the `ValueError` that names the class. -/
theorem store_parseConnection_eq_error {p : Paginator ε} {cls : String}
    {o : Option (Connection ε)} {e : PageError} (h : p.store (parseConnection cls o) = .error e) :
    e = unableToParse cls := by
  rw [store_parseConnection] at h
  split at h <;> cases h; rfl

/-- The exception of each `_update_response` on a malformed response. -/
theorem updateResponse_eq_error (p : Paginator ε) {e : PageError} :
    (∀ answer, ArtifactTypes.updateResponse answer p = .error e →
      e = unableToParse "ArtifactTypes") ∧
    (∀ answer, ArtifactCollections.updateResponse answer p = .error e →
      e = unableToParse "ArtifactCollections") ∧
    (∀ answer, Artifacts.updateResponse answer p = .error e → e = unableToParse "Artifacts") ∧
    (∀ answer runKey, RunArtifacts.updateResponse answer runKey p = .error e →
      e = .typeError ∨ e = .validationError) ∧
    (∀ queryViaMembership answer, ArtifactFiles.updateResponse queryViaMembership answer p =
      .error e → e = .attributeError (ArtifactFiles.connectionPath queryViaMembership).1 ∨
        e = .attributeError (ArtifactFiles.connectionPath queryViaMembership).2.1 ∨
        e = .attributeError (ArtifactFiles.connectionPath queryViaMembership).2.2 ∨
        e = unableToParse "ArtifactFiles") := by
  refine ⟨fun _ => store_parseConnection_eq_error, fun _ => store_parseConnection_eq_error,
    fun _ => store_parseConnection_eq_error, fun answer runKey h => ?_, fun q answer h => ?_⟩
  · unfold RunArtifacts.updateResponse at h
    rcases hx : answer runKey p.variableValues with _ | _ | _ | conn <;>
      simp [hx, Paginator.store, throw, throwThe, MonadExceptOf.throw, pure, Except.pure] at h <;>
      simp [h]
  · unfold ArtifactFiles.updateResponse at h
    generalize ArtifactFiles.connectionPath q = t at h ⊢
    obtain ⟨a₁, a₂, a₃⟩ := t
    rcases hx : answer p.variableValues with _ | _ | _ | _ | conn <;>
      simp [hx, Paginator.store, throw, throwThe, MonadExceptOf.throw, pure, Except.pure] at h <;>
      simp [h]

end Response

/-! ## The page loop -/

section Loop

/-! The loop is in `Paginator` (wandb/apis/paginator.py), not under src/. Section 4.2 of the spec:
"each page fetch issues one network query with the current cursor variable bound; the response is
validated against an expected shape and cached"; iteration goes on while there are more pages and
yields the objects of each. A fetch that raises keeps the variables `update_variables` bound. -/

variable {ε : Type} (updateVariables : Paginator ε → Paginator ε)
  (updateResponse : Paginator ε → Except PageError (Paginator ε))

/-- Modelled from the spec: one page fetch of `Paginator`. -/
def fetchPage (p : Paginator ε) : Paginator ε × Option PageError :=
  match updateResponse (updateVariables p) with
  | .ok p' => (p', none)
  | .error e => (updateVariables p, some e)

/-- Modelled from the spec: iteration, with `fuel` bounding the fetches. -/
def fetchAll : Nat → Paginator ε → Paginator ε × List (Connection ε) × Option PageError
  | 0, p => (p, [], none)
  | fuel + 1, p =>
    if p.more then
      match fetchPage updateVariables updateResponse p with
      | (p', some e) => (p', [], some e)
      | (p', none) =>
        let r := fetchAll fuel p'
        (r.1, p'.lastResponse.toList ++ r.2.1, r.2.2)
    else (p, [], none)

/-- The page after a cursor, from a server that holds `pages`. -/
def pageAfter : List (Connection ε) → Option String → Option (Connection ε)
  | [], _ => none
  | c :: _, none => some c
  | c :: cs, some k => if c.pageInfo.endCursor = some k then cs.head? else pageAfter cs (some k)

/-- A server holding `pages`, reading the cursor from `key`. -/
def servePages (pages : List (Connection ε)) (key : String) (vars : List (String × Var)) :
    Option (Connection ε) :=
  pageAfter pages (cursorIn vars key)

/-- The pages of a collection, in the order a server serves them. -/
structure Chained (pages : List (Connection ε)) : Prop where
  ne_nil : pages ≠ []
  next : ∀ c ∈ pages.dropLast, c.pageInfo.hasNextPage = true ∧ c.pageInfo.endCursor.isSome
  nodup : (pages.dropLast.map (·.pageInfo.endCursor)).Nodup
  last : ∀ c ∈ pages.getLast?, c.pageInfo.hasNextPage = false

theorem pageAfter_append {k : String} :
    ∀ (pre : List (Connection ε)) (l : List (Connection ε)),
      (∀ e ∈ pre, e.pageInfo.endCursor ≠ some k) →
        pageAfter (pre ++ l) (some k) = pageAfter l (some k)
  | [], _, _ => rfl
  | e :: pre, l, h => by
    rw [List.cons_append, pageAfter, if_neg (h e (List.mem_cons_self _ _))]
    exact pageAfter_append pre l fun e' he' => h e' (List.mem_cons_of_mem _ he')

/-- On a chain, the page after a page is the next one. -/
theorem pageAfter_chained {pre ds : List (Connection ε)} {c d : Connection ε}
    (hc : Chained (pre ++ c :: d :: ds)) :
    pageAfter (pre ++ c :: d :: ds) c.pageInfo.endCursor = some d := by
  have hdrop : (pre ++ c :: d :: ds).dropLast = pre ++ c :: (d :: ds).dropLast :=
    List.dropLast_append_cons
  obtain ⟨-, hsome⟩ := hc.next c (by rw [hdrop]; simp)
  obtain ⟨k, hk⟩ := Option.isSome_iff_exists.mp hsome
  have hnd := hc.nodup
  rw [hdrop, List.map_append, List.nodup_append] at hnd
  have hpre : ∀ e ∈ pre, e.pageInfo.endCursor ≠ some k := fun e he heq =>
    hnd.2.2 (List.mem_map_of_mem _ he)
      (by rw [heq, ← hk]; exact List.mem_map_of_mem _ (List.mem_cons_self _ _))
  rw [hk, pageAfter_append pre _ hpre, pageAfter, if_pos hk]
  rfl

variable {updateVariables updateResponse} {pages : List (Connection ε)}

/-- Once a page of the chain is cached, the rest is fetched. -/
theorem fetchAll_suffix (hc : Chained pages)
    (hserve : ∀ p c, pageAfter pages p.cursor = some c →
      updateResponse (updateVariables p) = .ok { updateVariables p with lastResponse := some c }) :
    ∀ (cs pre : List (Connection ε)) (c : Connection ε) (p : Paginator ε) (fuel : Nat),
      pages = pre ++ c :: cs → p.lastResponse = some c → cs.length ≤ fuel →
        ∃ q, fetchAll updateVariables updateResponse fuel p = (q, cs, none) ∧ q.more = false
  | [], pre, c, p, fuel, hpages, hp, _ => by
    have hmore : p.more = false := by
      rw [Paginator.more, hp]; exact hc.last c (by simp [hpages])
    exact ⟨p, by cases fuel <;> simp [fetchAll, hmore], hmore⟩
  | d :: ds, pre, c, p, fuel, hpages, hp, hfuel => by
    obtain ⟨fuel, rfl⟩ : ∃ m, fuel = m + 1 := ⟨fuel - 1, by simp at hfuel; omega⟩
    have hnext : c.pageInfo.hasNextPage = true ∧ c.pageInfo.endCursor.isSome :=
      hc.next c (by rw [hpages, List.dropLast_append_cons]; simp)
    have hmore : p.more = true := by rw [Paginator.more, hp]; exact hnext.1
    have hfetch := hserve p d (by
      rw [Paginator.cursor, hp]; exact hpages ▸ pageAfter_chained (hpages ▸ hc))
    obtain ⟨q, hq, hqm⟩ := fetchAll_suffix hc hserve ds (pre ++ [c]) d
      { updateVariables p with lastResponse := some d } fuel (by simp [hpages]) rfl
      (by simp at hfuel; omega)
    exact ⟨q, by simp [fetchAll, hmore, fetchPage, hfetch, hq], hqm⟩

/-- From no page, iteration fetches the whole chain once. -/
theorem fetchAll_of_chained (hc : Chained pages)
    (hserve : ∀ p c, pageAfter pages p.cursor = some c →
      updateResponse (updateVariables p) = .ok { updateVariables p with lastResponse := some c })
    (p : Paginator ε) (hp : p.lastResponse = none) {fuel : Nat} (hfuel : pages.length ≤ fuel) :
    ∃ q, fetchAll updateVariables updateResponse fuel p = (q, pages, none) ∧ q.more = false := by
  obtain ⟨c, cs, rfl⟩ := List.exists_cons_of_ne_nil hc.ne_nil
  obtain ⟨fuel, rfl⟩ : ∃ m, fuel = m + 1 := ⟨fuel - 1, by simp at hfuel; omega⟩
  have hmore : p.more = true := by rw [Paginator.more, hp]
  have hfetch := hserve p c (by rw [Paginator.cursor, hp]; rfl)
  obtain ⟨q, hq, hqm⟩ := fetchAll_suffix hc hserve cs [] c
    { updateVariables p with lastResponse := some c } fuel rfl rfl (by simp at hfuel; omega)
  exact ⟨q, by simp [fetchAll, hmore, fetchPage, hfetch, hq], hqm⟩

end Loop

/-! ## The three paginators that bind their own cursor -/

section OwnCursor

variable {ε : Type}

/-- One fetch of `ArtifactTypes`: the page after the cursor. -/
theorem ArtifactTypes.fetch_servePages {pages : List (Connection ε)} {p : Paginator ε}
    {c : Connection ε} (h : pageAfter pages p.cursor = some c) :
    ArtifactTypes.updateResponse (fun vars => some (servePages pages "cursor" vars))
      (ArtifactTypes.updateVariables p) =
      .ok { ArtifactTypes.updateVariables p with lastResponse := some c } := by
  simp [ArtifactTypes.updateResponse, ArtifactTypes.updateVariables, Paginator.update, servePages,
    cursorIn_update_ofOption, h, store_parseConnection]

/-- One fetch of `ArtifactCollections`: the page after the cursor. -/
theorem ArtifactCollections.fetch_servePages {pages : List (Connection ε)} {p : Paginator ε}
    {c : Connection ε} (h : pageAfter pages p.cursor = some c) :
    ArtifactCollections.updateResponse (fun vars => some (some (servePages pages "cursor" vars)))
      (ArtifactCollections.updateVariables p) =
      .ok { ArtifactCollections.updateVariables p with lastResponse := some c } := by
  simp [ArtifactCollections.updateResponse, ArtifactCollections.updateVariables, Paginator.update,
    servePages, cursorIn_update_ofOption, h, store_parseConnection]

/-- One fetch of `ArtifactFiles`, on `fileCursor`. -/
theorem ArtifactFiles.fetch_servePages {pages : List (Connection ε)} {p : Paginator ε}
    {c : Connection ε} (queryViaMembership : Bool) (h : pageAfter pages p.cursor = some c) :
    ArtifactFiles.updateResponse queryViaMembership
      (fun vars => some (some (some (servePages pages "fileCursor" vars))))
      (ArtifactFiles.updateVariables p) =
      .ok { ArtifactFiles.updateVariables p with lastResponse := some c } := by
  simp [ArtifactFiles.updateResponse, ArtifactFiles.updateVariables, Paginator.update, servePages,
    cursorIn_update_ofOption, h, Paginator.store, pure, Except.pure]

/-- **Every page once, in order.** -/
theorem fetchAll_chained {pages : List (Connection ε)} (hc : Chained pages)
    (variableValues : List (String × Var)) (perPage : Nat) {fuel : Nat}
    (hfuel : pages.length ≤ fuel) (queryViaMembership : Bool) :
    (∃ q, fetchAll ArtifactTypes.updateVariables
        (ArtifactTypes.updateResponse fun vars => some (servePages pages "cursor" vars)) fuel
        (.new variableValues perPage) = (q, pages, none) ∧ q.more = false) ∧
    (∃ q, fetchAll ArtifactCollections.updateVariables
        (ArtifactCollections.updateResponse fun vars =>
          some (some (servePages pages "cursor" vars))) fuel
        (.new variableValues perPage) = (q, pages, none) ∧ q.more = false) ∧
    (∃ q, fetchAll ArtifactFiles.updateVariables
        (ArtifactFiles.updateResponse queryViaMembership fun vars =>
          some (some (some (servePages pages "fileCursor" vars)))) fuel
        (.new variableValues perPage) = (q, pages, none) ∧ q.more = false) :=
  ⟨fetchAll_of_chained hc (fun _ _ => ArtifactTypes.fetch_servePages) _ rfl hfuel,
    fetchAll_of_chained hc (fun _ _ => ArtifactCollections.fetch_servePages) _ rfl hfuel,
    fetchAll_of_chained hc (fun _ _ => ArtifactFiles.fetch_servePages queryViaMembership) _ rfl
      hfuel⟩

/-- Two pages: `a` and `b` up to the cursor `c1`, then `c`. -/
def samplePages : List (Connection String) :=
  [⟨⟨true, some "c1"⟩, ["a", "b"]⟩, ⟨⟨false, none⟩, ["c"]⟩]

theorem fetchAll_chained_sample :
    Chained samplePages ∧ samplePages.length ≤ 2 ∧
    (∃ q, fetchAll ArtifactTypes.updateVariables
        (ArtifactTypes.updateResponse fun vars => some (servePages samplePages "cursor" vars)) 2
        (.new [] 50) = (q, samplePages, none) ∧ q.more = false) ∧
    (∃ q, fetchAll ArtifactCollections.updateVariables
        (ArtifactCollections.updateResponse fun vars =>
          some (some (servePages samplePages "cursor" vars))) 2
        (.new [] 50) = (q, samplePages, none) ∧ q.more = false) ∧
    (∃ q, fetchAll ArtifactFiles.updateVariables
        (ArtifactFiles.updateResponse true fun vars =>
          some (some (some (servePages samplePages "fileCursor" vars)))) 2
        (.new [] 50) = (q, samplePages, none) ∧ q.more = false) :=
  have hc : Chained samplePages :=
    ⟨by simp [samplePages], by decide, by decide, fun c hc => by cases hc; rfl⟩
  ⟨hc, by decide, fetchAll_chained hc [] 50 (by decide) true⟩

end OwnCursor

/-! ## The objects of a page -/

end Artifacts

end Wandb
