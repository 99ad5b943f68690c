import TransformerEngine.Proofs.Plugin.Loading

/-!
# A loader with caches answers like one without

A loader is asked for plugins again and again, while modules come and go behind the
resolver that it asks. To see what it owes to its caches, the resolver's answers are written
down (`Resolver.recorded`), which changes nothing else (`runOn_load_recorded`,
`runOn_loadAll_recorded`).

A loader without caches has to remember one thing: which module was found first under each
specifier (`firstFound`). `lookUp` is that loader. It asks for a module that was never found,
whenever it needs one, and it reads the export from the module that was found first, each
time anew. The two are the same loader (`load_eq_lookUp`, `loadAll_eq_lookUpAll`), because
every step of loading keeps the caches in line with the record (`Remembers`): the kept
modules are the ones found first, in the order in which they were found, and a kept export is
what its module offers.
-/

namespace TransformerEngine

variable {W σ : Type}

/-! ### Records of answers -/

/-- A question to a resolver, and its answer. -/
structure Inquiry (W : Type) where
  /-- What was asked for. -/
  specifier : String
  /-- What was found, if anything was. -/
  answer : Option (TransformModule W)

/-- The specifiers under which a module was found, once for each time. -/
def resolvedIn (asked : List (Inquiry W)) : List String :=
  asked.filterMap fun q => q.answer.map fun _ => q.specifier

/-- The module that was found first under a specifier. -/
def firstFound (asked : List (Inquiry W)) (specifier : String) : Option (TransformModule W) :=
  asked.findSome? fun q => if q.specifier = specifier then q.answer else none

/-- The resolver with its answers written down. -/
def Resolver.recorded (resolve : Resolver W σ) : Resolver W (σ × List (Inquiry W)) :=
  fun specifier (state, asked) =>
    ((resolve specifier state).1, (resolve specifier state).2,
      asked ++ [⟨specifier, (resolve specifier state).1⟩])

section Records

variable {asked : List (Inquiry W)} {specifier : String}

theorem resolvedIn_append_none (asked : List (Inquiry W)) (specifier : String) :
    resolvedIn (asked ++ [⟨specifier, none⟩]) = resolvedIn asked := by
  rw [resolvedIn, List.filterMap_append]
  exact List.append_nil _

theorem resolvedIn_append_some (asked : List (Inquiry W)) (specifier : String)
    (module : TransformModule W) :
    resolvedIn (asked ++ [⟨specifier, some module⟩]) = resolvedIn asked ++ [specifier] := by
  rw [resolvedIn, List.filterMap_append]
  rfl

/-- What was found stays found first, whatever is found later. -/
theorem firstFound_append (asked later : List (Inquiry W)) (specifier : String) :
    firstFound (asked ++ later) specifier =
      (firstFound asked specifier).or (firstFound later specifier) :=
  List.findSome?_append

/-- A failure leaves no trace: what is found first is the same with and without it. -/
theorem firstFound_append_none (asked : List (Inquiry W)) (specifier specifier' : String) :
    firstFound (asked ++ [⟨specifier, none⟩]) specifier' = firstFound asked specifier' := by
  have hlast : firstFound [(⟨specifier, none⟩ : Inquiry W)] specifier' = none := by
    rw [firstFound, List.findSome?_cons, ite_self]
    rfl
  rw [firstFound_append, hlast, Option.or_none]

/-- A module that is found for the first time is found under its own specifier only. -/
theorem firstFound_append_some (h : firstFound asked specifier = none)
    (module : TransformModule W) (specifier' : String) :
    firstFound (asked ++ [⟨specifier, some module⟩]) specifier' =
      if specifier = specifier' then some module else firstFound asked specifier' := by
  rw [firstFound_append]
  by_cases hs : specifier = specifier'
  · subst hs
    rw [h, if_pos rfl]
    simp [firstFound]
  · have hlast : firstFound [(⟨specifier, some module⟩ : Inquiry W)] specifier' = none := by
      simp [firstFound, hs]
    rw [hlast, Option.or_none, if_neg hs]

/-- Whatever is answered is written down. -/
theorem Resolver.recorded_eq {resolve : Resolver W σ} {before after : σ × List (Inquiry W)}
    {answer : Option (TransformModule W)} (h : resolve.recorded specifier before = (answer, after)) :
    after.2 = before.2 ++ [⟨specifier, answer⟩] := by
  obtain ⟨hanswer, hafter⟩ := Prod.ext_iff.mp h
  change (resolve specifier before.1).1 = answer at hanswer
  rw [← show _ = after from hafter, ← hanswer]
  rfl

end Records

/-! ### Writing down changes nothing -/

/-- The outcome of a loading without the record. -/
def withoutRecord {α : Type} (outcome : α × ModuleCache W × σ × List (Inquiry W)) :
    α × ModuleCache W × σ := (outcome.1, outcome.2.1, outcome.2.2.1)

namespace Loading

variable (resolve : Resolver W σ) (cache : ModuleCache W) (state : σ) (asked : List (Inquiry W))

theorem runOn_loadModule_recorded (specifier : String) :
    withoutRecord ((loadModule resolve.recorded specifier).runOn cache (state, asked)) =
      (loadModule resolve specifier).runOn cache state := by
  rw [runOn_loadModule, runOn_loadModule]
  cases cache.modules.find? specifier with
  | some module => rfl
  | none =>
    rcases hr : resolve specifier state with ⟨_ | module, after⟩
    · simp only [Resolver.recorded, hr, withoutRecord]
    · simp only [Resolver.recorded, hr, withoutRecord]

theorem runOn_load_recorded (d : PluginDescriptor) :
    withoutRecord ((load resolve.recorded d).runOn cache (state, asked)) =
      (load resolve d).runOn cache state := by
  rw [runOn_load, runOn_load]
  cases cache.exports.find? d.identity with
  | some value => rfl
  | none =>
    simp only
    rw [← runOn_loadModule_recorded resolve cache state asked d.module]
    rcases (loadModule resolve.recorded d.module).runOn cache (state, asked) with
      ⟨error | module, middle, after, asked'⟩
    · rfl
    · simp only [withoutRecord]
      cases selectExport module d <;> rfl

theorem runOn_loadAll_recorded (ds : List PluginDescriptor) :
    withoutRecord ((loadAll resolve.recorded ds).runOn cache (state, asked)) =
      (loadAll resolve ds).runOn cache state := by
  induction ds generalizing cache state asked with
  | nil => rfl
  | cons d rest ih =>
    rw [runOn_loadAll_cons, runOn_loadAll_cons, ← runOn_load_recorded resolve cache state asked d]
    rcases (load resolve.recorded d).runOn cache (state, asked) with
      ⟨error | first, middle, between, asked'⟩
    · rfl
    · simp only [withoutRecord]
      rw [← ih middle between asked']
      rcases (loadAll resolve.recorded rest).runOn middle (between, asked') with
        ⟨error | others, last, after, asked''⟩ <;> rfl

end Loading

/-! ### Loading without caches -/

/-- What a descriptor comes to in a module, or without one. -/
def PluginDescriptor.answerFrom (d : PluginDescriptor) :
    Option (TransformModule W) → Except PluginError (ResolvedTransform W)
  | none => .error (.transformLoad d.module)
  | some module => (selectExport module d).map fun value => ⟨d, value⟩

/-- Ask for a module, unless it was found before. -/
def inquire (resolve : Resolver W σ) (specifier : String) (state : σ × List (Inquiry W)) :
    σ × List (Inquiry W) :=
  if (firstFound state.2 specifier).isSome then state else (resolve.recorded specifier state).2

/-- The transform of a descriptor in the module that was found first under its specifier,
where the module is asked for if none was found before. -/
def lookUp (resolve : Resolver W σ) (d : PluginDescriptor) (state : σ × List (Inquiry W)) :
    Except PluginError (ResolvedTransform W) × σ × List (Inquiry W) :=
  (d.answerFrom (firstFound (inquire resolve d.module state).2 d.module),
    inquire resolve d.module state)

/-- The transforms of descriptors, in order, up to the first failure. -/
def lookUpAll (resolve : Resolver W σ) : List PluginDescriptor → σ × List (Inquiry W) →
    Except PluginError (List (ResolvedTransform W)) × σ × List (Inquiry W)
  | [], state => (.ok [], state)
  | d :: rest, state =>
    match lookUp resolve d state with
    | (.error error, state) => (.error error, state)
    | (.ok first, state) =>
      match lookUpAll resolve rest state with
      | (.error error, state) => (.error error, state)
      | (.ok others, state) => (.ok (first :: others), state)

section LookUp

variable {resolve : Resolver W σ} {state : σ × List (Inquiry W)} {specifier : String}

theorem inquire_of_found {module : TransformModule W}
    (h : firstFound state.2 specifier = some module) : inquire resolve specifier state = state := by
  rw [inquire, h]
  rfl

theorem inquire_of_new (h : firstFound state.2 specifier = none) :
    inquire resolve specifier state = (resolve.recorded specifier state).2 := by
  rw [inquire, h]
  rfl

/-- After the question the module is known, or it is known not to be there now. -/
theorem firstFound_inquire_of_new (h : firstFound state.2 specifier = none) :
    firstFound (inquire resolve specifier state).2 specifier = (resolve specifier state.1).1 := by
  rw [inquire_of_new h]
  change firstFound (state.2 ++ [⟨specifier, (resolve specifier state.1).1⟩]) specifier = _
  cases (resolve specifier state.1).1 with
  | none => rw [firstFound_append_none, h]
  | some module => rw [firstFound_append_some h, if_pos rfl]

end LookUp

/-! ### The caches follow the record -/

/-- The caches hold what the record says was found: the modules found first, in the order in
which they were found, and exports that these modules offer. -/
structure Remembers (cache : ModuleCache W) (asked : List (Inquiry W)) : Prop where
  modules : ∀ specifier, cache.modules.find? specifier = firstFound asked specifier
  keys : cache.modules.keys = resolvedIn asked
  consistent : cache.Consistent

section Remembering

variable {resolve : Resolver W σ} {start now later : ModuleCache W × σ × List (Inquiry W)}

theorem remembers_nothing : Remembers ({} : ModuleCache W) [] :=
  ⟨fun _ => rfl, rfl, ModuleCache.consistent_empty⟩

theorem LoadStep.remembers (h : LoadStep resolve.recorded start now)
    (hr : Remembers start.1 start.2.2) : Remembers now.1 now.2.2 := by
  have hconsistent := h.consistent hr.consistent
  cases h with
  | @found cache state state' specifier module hnew hmodule =>
    -- the answer is written down where the module is kept
    have hfirst : firstFound state.2 specifier = none := hr.modules specifier ▸ hnew
    have hrecord : state'.2 = state.2 ++ [⟨specifier, some module⟩] :=
      Resolver.recorded_eq hmodule
    have hkey : specifier ∉ cache.modules.keys := by
      rw [← Table.contains_iff, Table.contains, hnew]
      exact Bool.false_ne_true
    refine ⟨fun specifier' => ?_, ?_, hconsistent⟩
    · change (cache.modules.insert specifier module).find? specifier' = _
      rw [Table.find?_insert, hrecord, firstFound_append_some hfirst, hr.modules specifier']
    · change (cache.modules.insert specifier module).keys = _
      rw [Table.keys_insert, if_neg hkey, hrecord, resolvedIn_append_some, hr.keys]
  | @missing cache state state' specifier hnew hmodule =>
    have hrecord : state'.2 = state.2 ++ [⟨specifier, none⟩] := Resolver.recorded_eq hmodule
    refine ⟨fun specifier' => ?_, ?_, hconsistent⟩
    · rw [hrecord, firstFound_append_none]
      exact hr.modules specifier'
    · rw [hrecord, resolvedIn_append_none]
      exact hr.keys
  | selected hnew hmodule hvalue => exact ⟨hr.modules, hr.keys, hconsistent⟩

/-- **The caches follow the record**, through any loading. -/
theorem Reaches.remembers (h : Reaches resolve.recorded start now)
    (hr : Remembers start.1 start.2.2) : Remembers now.1 now.2.2 := by
  induction h with
  | refl => exact hr
  | tail _ step ih => exact step.remembers ih

end Remembering

/-! ### One loader, two descriptions -/

section Equal

variable {cache : ModuleCache W} {state : σ × List (Inquiry W)}

/-- A module is loaded by looking at the record, and asking if need be. -/
theorem loadModule_eq_inquire (resolve : Resolver W σ) (hr : Remembers cache state.2)
    (specifier : String) :
    ((Loading.loadModule resolve.recorded specifier).runOn cache state).1 =
        (match firstFound (inquire resolve specifier state).2 specifier with
          | some module => .ok module
          | none => .error (.transformLoad specifier)) ∧
      ((Loading.loadModule resolve.recorded specifier).runOn cache state).2.2 =
        inquire resolve specifier state := by
  rw [Loading.runOn_loadModule, hr.modules specifier]
  cases hfirst : firstFound state.2 specifier with
  | some module =>
    rw [inquire_of_found hfirst, hfirst]
    exact ⟨rfl, rfl⟩
  | none =>
    rw [firstFound_inquire_of_new hfirst, inquire_of_new hfirst]
    simp only [Resolver.recorded]
    cases (resolve specifier state.1).1 with
    | none => exact ⟨rfl, rfl⟩
    | some module => exact ⟨rfl, rfl⟩

/-- **One descriptor.** The loader with caches comes to what the loader without comes to, and
asks the same questions. -/
theorem load_eq_lookUp (resolve : Resolver W σ) (hr : Remembers cache state.2)
    (d : PluginDescriptor) :
    (((Loading.load resolve.recorded d).runOn cache state).1,
        ((Loading.load resolve.recorded d).runOn cache state).2.2) = lookUp resolve d state := by
  have hmodule := loadModule_eq_inquire resolve hr d.module
  rw [Loading.runOn_load, lookUp]
  cases hexport : cache.exports.find? d.identity with
  | some value =>
    -- a kept export is what the module offers, which was found before
    obtain ⟨module, hkept, hoffered⟩ := hr.consistent _ _ hexport
    have hfirst : firstFound state.2 d.module = some module := hr.modules d.module ▸ hkept
    have hselect : selectExport module d = .ok value := selectExport_eq_ok.mpr hoffered
    rw [inquire_of_found hfirst, hfirst, PluginDescriptor.answerFrom, hselect]
    rfl
  | none =>
    simp only
    rcases hrun : (Loading.loadModule resolve.recorded d.module).runOn cache state with
      ⟨answer, middle, after⟩
    rw [hrun] at hmodule
    obtain ⟨hanswer, hafter⟩ := hmodule
    change after = inquire resolve d.module state at hafter
    rw [← hafter] at hanswer ⊢
    cases hfirst : firstFound after.2 d.module with
    | none =>
      rw [hfirst] at hanswer
      obtain rfl : answer = .error (.transformLoad d.module) := hanswer
      rfl
    | some module =>
      rw [hfirst] at hanswer
      obtain rfl : answer = .ok module := hanswer
      rw [PluginDescriptor.answerFrom]
      simp only
      cases selectExport module d <;> rfl

/-- **Several descriptors**, up to the first failure. -/
theorem loadAll_eq_lookUpAll (resolve : Resolver W σ) (hr : Remembers cache state.2)
    (ds : List PluginDescriptor) :
    (((Loading.loadAll resolve.recorded ds).runOn cache state).1,
        ((Loading.loadAll resolve.recorded ds).runOn cache state).2.2) =
      lookUpAll resolve ds state := by
  induction ds generalizing cache state with
  | nil => rfl
  | cons d rest ih =>
    have hfirst := load_eq_lookUp resolve hr d
    rw [Loading.runOn_loadAll_cons, lookUpAll, ← hfirst]
    rcases hrun : (Loading.load resolve.recorded d).runOn cache state with
      ⟨error | first, middle, between⟩
    · rfl
    · -- the others start from caches that follow the record still
      have hmiddle : Remembers middle between.2 := (Loading.reaches_load hrun).remembers hr
      have hothers := ih hmiddle
      simp only
      rw [← hothers]
      rcases (Loading.loadAll resolve.recorded rest).runOn middle between with
        ⟨error | others, last, after⟩ <;> rfl

end Equal

/-! ### Loaders in use -/

/-- What can happen to a loader: it is asked for plugins, or modules come and go behind its
resolver. The record is of its own questions. -/
inductive LoaderStep (resolve : Resolver W σ) :
    ModuleCache W × σ × List (Inquiry W) → ModuleCache W × σ × List (Inquiry W) → Prop where
  /-- From now on the resolver may answer differently. -/
  | changed (cache : ModuleCache W) (state state' : σ) (asked : List (Inquiry W)) :
      LoaderStep resolve (cache, state, asked) (cache, state', asked)
  /-- One plugin is loaded, or cannot be. -/
  | loaded (before : ModuleCache W × σ × List (Inquiry W)) (d : PluginDescriptor) :
      LoaderStep resolve before ((Loading.load resolve.recorded d).runOn before.1 before.2).2
  /-- Several are loaded, up to the first that cannot be. -/
  | loadedAll (before : ModuleCache W × σ × List (Inquiry W)) (ds : List PluginDescriptor) :
      LoaderStep resolve before ((Loading.loadAll resolve.recorded ds).runOn before.1 before.2).2

/-- What using a loader leads to. -/
abbrev Serves (resolve : Resolver W σ) :
    ModuleCache W × σ × List (Inquiry W) → ModuleCache W × σ × List (Inquiry W) → Prop :=
  Relation.ReflTransGen (LoaderStep resolve)

section Serving

variable {resolve : Resolver W σ} {start now later : ModuleCache W × σ × List (Inquiry W)}

/-- A step in the use of a loader either changes the modules or is a loading. -/
theorem LoaderStep.changed_or_reaches (h : LoaderStep resolve start now) :
    (now.1 = start.1 ∧ now.2.2 = start.2.2) ∨ Reaches resolve.recorded start now := by
  cases h with
  | changed cache state state' asked => exact .inl ⟨rfl, rfl⟩
  | loaded before d => exact .inr (Loading.reaches_load rfl)
  | loadedAll before ds => exact .inr (Loading.reaches_loadAll rfl)

theorem Serves.remembers (h : Serves resolve start now) (hr : Remembers start.1 start.2.2) :
    Remembers now.1 now.2.2 := by
  induction h with
  | refl => exact hr
  | tail _ step ih =>
    rcases step.changed_or_reaches with ⟨hcache, hasked⟩ | hreaches
    · rw [hcache, hasked]
      exact ih
    · exact hreaches.remembers ih

theorem Serves.extends (h : Serves resolve start now) : start.1.Extends now.1 := by
  induction h with
  | refl => exact .refl _
  | tail _ step ih =>
    rcases step.changed_or_reaches with ⟨hcache, -⟩ | hreaches
    · rw [hcache]
      exact ih
    · exact ih.trans hreaches.extends

/-- Once an export was loaded it is loaded again, without a question, by whatever has its
identity. -/
theorem Serves.reload {cache : ModuleCache W} {state : σ × List (Inquiry W)}
    {d d' : PluginDescriptor} {t : ResolvedTransform W}
    (hok : ((Loading.load resolve.recorded d).runOn cache state).1 = .ok t)
    (h : Serves resolve ((Loading.load resolve.recorded d).runOn cache state).2 later)
    (hid : d'.identity = d.identity) :
    (Loading.load resolve.recorded d').runOn later.1 later.2 = (.ok ⟨d', t.value⟩, later) := by
  have hkept := (Loading.ok_of_load (Prod.ext hok rfl)).2
  have hstill := h.extends.exports _ _ hkept
  rw [Loading.runOn_load, hid, hstill]

end Serving

/-! A module that is missing at first, then found, then replaced behind the loader. -/

namespace Loading.Sample

/-- Finds the modules on a shelf. -/
def onShelf : Resolver Unit (Table String (TransformModule Unit)) :=
  fun specifier shelf => (shelf.find? specifier, shelf)

/-- Reports `n` when it is called, and leaves files as they are. -/
def marking (n : Int) : Factory Unit := fun _ world =>
  ⟨fun _ file _ world => ⟨file, [], world⟩, [.error n "marked"], world⟩

/-- A shelf with the module `marks` on it. -/
def shelf (n : Int) : Table String (TransformModule Unit) :=
  Table.empty.insert "marks" { main := some (.factory (marking n)) }

def plain : PluginDescriptor := { module := "marks" }

/-- Asks the same module for what it does not offer. -/
def configured : PluginDescriptor := { module := "marks", kind := .config }

/-- What is kept in the end. -/
def kept : ModuleCache Unit :=
  { modules := Table.empty.insert "marks" { main := some (.factory (marking 1)) } }

/-- What was asked until then. -/
def asked : List (Inquiry Unit) :=
  [⟨"marks", none⟩, ⟨"marks", some { main := some (.factory (marking 1)) }⟩]

theorem serves : Serves onShelf ({}, Table.empty, []) (kept, shelf 2, asked) := by
  have missing : LoaderStep onShelf _ _ := .loaded ({}, Table.empty, []) plain
  have arrives : LoaderStep onShelf _ _ := .changed {} Table.empty (shelf 1) (asked.take 1)
  have refused : LoaderStep onShelf _ _ :=
    .loadedAll ({}, shelf 1, asked.take 1) [configured, plain]
  have replaced : LoaderStep onShelf _ _ := .changed kept (shelf 1) (shelf 2) asked
  exact (((Relation.ReflTransGen.single missing).tail arrives).tail refused).tail replaced

end Loading.Sample

/-- **Caching does not show.** Let a loader be used in any way, while its resolver's answers
change in any way. Under each specifier a module was found at most once, and the loader
counts the modules that were. Each export that is kept can be called as its identity asks
for. Whatever is loaded comes to the export that the module found first under its specifier
offers, or to the error about it; a module that was never found is asked for, and only if it
is missing now is that the error. An export that was loaded once is what everything of its
identity is from then on. -/
theorem loader_transparent {resolve : Resolver W σ} {start state : σ} {cache : ModuleCache W}
    {asked : List (Inquiry W)} (h : Serves resolve ({}, start, []) (cache, state, asked)) :
    (resolvedIn asked).Nodup ∧ cache.modules.size = (resolvedIn asked).length ∧
    (∀ identity value, cache.exports.find? identity = some value →
      value.supports identity.kind = true) ∧
    (∀ d, let run := (Loading.load resolve.recorded d).runOn cache (state, asked)
      (run.1, run.2.2) = lookUp resolve d (state, asked) ∧
        withoutRecord run = (Loading.load resolve d).runOn cache state) ∧
    (∀ ds, let run := (Loading.loadAll resolve.recorded ds).runOn cache (state, asked)
      (run.1, run.2.2) = lookUpAll resolve ds (state, asked) ∧
        withoutRecord run = (Loading.loadAll resolve ds).runOn cache state) ∧
    ∀ d t later, let run := (Loading.load resolve.recorded d).runOn cache (state, asked)
      run.1 = .ok t → Serves resolve run.2 later → ∀ d', d'.identity = d.identity →
        (Loading.load resolve.recorded d').runOn later.1 later.2 = (.ok ⟨d', t.value⟩, later) := by
  have hr : Remembers cache asked := h.remembers remembers_nothing
  have hlength : cache.modules.size = (resolvedIn asked).length := by
    rw [← hr.keys]
    exact (List.length_map _).symm
  refine ⟨?_, hlength, ?_, fun d => ⟨?_, ?_⟩, fun ds => ⟨?_, ?_⟩, ?_⟩
  · rw [← hr.keys]
    exact cache.modules.nodup
  · intro identity value hvalue
    obtain ⟨module, -, -, hsupports⟩ := hr.consistent identity value hvalue
    exact hsupports
  · exact load_eq_lookUp resolve hr d
  · exact Loading.runOn_load_recorded resolve cache state asked d
  · exact loadAll_eq_lookUpAll resolve hr ds
  · exact Loading.runOn_loadAll_recorded resolve cache state asked ds
  · exact fun d t later hok hlater d' hid => Serves.reload hok hlater hid

/-- The module that was missing is asked for again, and what it was when it was found is
what is loaded, although another stands in its place by now. -/
theorem loader_transparent_sample :
    Serves Loading.Sample.onShelf ({}, Table.empty, [])
      (Loading.Sample.kept, Loading.Sample.shelf 2, Loading.Sample.asked) ∧
    resolvedIn Loading.Sample.asked = ["marks"] ∧ Loading.Sample.kept.modules.size = 1 ∧
    (Loading.load Loading.Sample.onShelf Loading.Sample.plain).runOn Loading.Sample.kept
        (Loading.Sample.shelf 2) =
      withoutRecord (.ok ⟨Loading.Sample.plain, .factory (Loading.Sample.marking 1)⟩,
        { Loading.Sample.kept with
          exports := Table.empty.insert Loading.Sample.plain.identity
            (.factory (Loading.Sample.marking 1)) },
        Loading.Sample.shelf 2, Loading.Sample.asked) := by
  obtain ⟨-, hsize, -, hload, -⟩ := loader_transparent Loading.Sample.serves
  exact ⟨Loading.Sample.serves, rfl, hsize, (hload Loading.Sample.plain).2.symm⟩

end TransformerEngine
