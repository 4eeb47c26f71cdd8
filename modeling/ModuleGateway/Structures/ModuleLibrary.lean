import ModuleGateway.Structures.SettingsParser
import ModuleGateway.Structures.Messages

/-! # The module library

The two maps of `ModuleLibrary` and how they are filled at start-up. Opening a library is
outside of the gateway; a loaded module reports one number. The status aggregators
change their contents later, so the map keeps the handler each of them was made with.
-/
namespace ModuleGateway.Structures

variable {β : Type}

structure IModuleManagerLibraryHandler (β : Type) extends ModuleLibraryHandler β where
  getModuleNumber : ℤ

/-- What `loadLibrary` of a new handler makes of it, `none` when it throws. A local handler opens the
library, an asynchronous one starts the module binary for a module number. -/
structure LibraryLoader (β : Type) where
  loadLocal : String → Option (IModuleManagerLibraryHandler β)
  loadAsync : String → ℤ → String → Option (IModuleManagerLibraryHandler β)

/-- A pointer in `moduleLibraryHandlers` may be null. -/
structure ModuleLibrary (β : Type) where
  moduleLibraryHandlers : AList fun _ : ℤ => Option (IModuleManagerLibraryHandler β)
  statusAggregators : AList fun _ : ℤ => ModuleLibraryHandler β

namespace ModuleLibrary

def init : ModuleLibrary β := ⟨∅,∅⟩

/-- `try_emplace`. -/
def emplaceHandler (library : ModuleLibrary β) (key : ℤ) (handler : IModuleManagerLibraryHandler β) :
    ModuleLibrary β :=
  if key ∈ library.moduleLibraryHandlers then library
  else { library with moduleLibraryHandlers := library.moduleLibraryHandlers.insert key (some handler) }

/-- One round of the loop of `loadLibraries`, `none` when it throws. -/
def loadLibrary (loader : LibraryLoader β) (moduleBinaryPath : String) (library : ModuleLibrary β)
    (entry : (_ : ℤ) × String) : Option (ModuleLibrary β) :=
  let handler :=
    if moduleBinaryPath.isEmpty then loader.loadLocal entry.2
    else loader.loadAsync moduleBinaryPath entry.1 entry.2
  match handler with
  | none => none
  | some handler =>
    if handler.getModuleNumber ≠ entry.1 then none else some (library.emplaceHandler entry.1 handler)

def loadLibraries (loader : LibraryLoader β) (library : ModuleLibrary β) (libPaths : AList fun _ : ℤ => String)
    (moduleBinaryPath : String) : Option (ModuleLibrary β) :=
  libPaths.entries.foldlM (loadLibrary loader moduleBinaryPath) library

/-- Whether an endpoint lists the module. -/
def hasEndpoint (settings : Settings) (number : ℤ) : Bool :=
  settings.externalConnectionSettingsList.any fun connection => number ∈ connection.modules

/-- One round of the loop of `initStatusAggregators`; a null handler is called through. -/
def initStatusAggregator (settings : Settings) (library : ModuleLibrary β)
    (libraryHandler : Option (IModuleManagerLibraryHandler β)) : Option (ModuleLibrary β) :=
  match libraryHandler with
  | none => none
  | some libraryHandler =>
    let moduleNumber := libraryHandler.getModuleNumber
    if moduleNumber ∈ library.statusAggregators then some library
    else if hasEndpoint settings moduleNumber then
      some { library with
        statusAggregators :=
          library.statusAggregators.insert moduleNumber libraryHandler.toModuleLibraryHandler }
    else some library

def initStatusAggregators (settings : Settings) (library : ModuleLibrary β) : Option (ModuleLibrary β) :=
  library.moduleLibraryHandlers.entries.foldlM
    (fun library entry => library.initStatusAggregator settings entry.2) library

/-- The handler behind `moduleLibraryHandlers.at(number)->`, `none` when the look-up throws or the
pointer is null. -/
def handlerAt (library : ModuleLibrary β) (number : ℤ) : Option (ModuleLibraryHandler β) :=
  (library.moduleLibraryHandlers.lookup number).join.map
    IModuleManagerLibraryHandler.toModuleLibraryHandler

/-! ## After loading -/

/-- Every handler is there and reports the number it is filed under. -/
def Numbered (library : ModuleLibrary β) : Prop := ∀ number libraryHandler,
  library.moduleLibraryHandlers.lookup number = some libraryHandler →
    ∃ handler, libraryHandler = some handler ∧ handler.getModuleNumber = number

theorem Numbered.emplaceHandler {library : ModuleLibrary β} (h : library.Numbered) {key : ℤ}
    {handler : IModuleManagerLibraryHandler β} (hhandler : handler.getModuleNumber = key) :
    (library.emplaceHandler key handler).Numbered := by
  unfold ModuleLibrary.emplaceHandler
  split
  · exact h
  · intro number libraryHandler hlookup
    by_cases hnumber : number = key
    · subst hnumber
      rw [AList.lookup_insert] at hlookup
      exact ⟨handler,(Option.some.inj hlookup).symm,hhandler⟩
    · rw [AList.lookup_insert_ne hnumber] at hlookup
      exact h number libraryHandler hlookup

theorem mem_emplaceHandler {library : ModuleLibrary β} {key number : ℤ}
    {handler : IModuleManagerLibraryHandler β} :
    number ∈ (library.emplaceHandler key handler).moduleLibraryHandlers ↔
      number = key ∨ number ∈ library.moduleLibraryHandlers := by
  unfold ModuleLibrary.emplaceHandler
  split
  · rename_i hkey
    refine ⟨.inr,?_⟩
    rintro (rfl | h)
    · exact hkey
    · exact h
  · exact AList.mem_insert _

theorem loadLibrary_eq_some {loader : LibraryLoader β} {moduleBinaryPath : String}
    {library loaded : ModuleLibrary β} {entry : (_ : ℤ) × String}
    (h : loadLibrary loader moduleBinaryPath library entry = some loaded) :
    ∃ handler : IModuleManagerLibraryHandler β,
      handler.getModuleNumber = entry.1 ∧ loaded = library.emplaceHandler entry.1 handler := by
  unfold loadLibrary at h
  dsimp only at h
  split at h
  · cases h
  · rename_i handler _
    split at h
    · cases h
    · rename_i hnumber
      exact ⟨handler,not_not.mp hnumber,(Option.some.inj h).symm⟩

/-- The loop leaves the status aggregators alone and files a handler for every path. -/
theorem foldlM_loadLibrary {loader : LibraryLoader β} {moduleBinaryPath : String}
    {entries : List ((_ : ℤ) × String)} {library loaded : ModuleLibrary β}
    (h : entries.foldlM (loadLibrary loader moduleBinaryPath) library = some loaded) (hnumbered : library.Numbered) :
    loaded.Numbered ∧ loaded.statusAggregators = library.statusAggregators ∧
      ∀ number, number ∈ loaded.moduleLibraryHandlers ↔
        number ∈ library.moduleLibraryHandlers ∨ number ∈ entries.map Sigma.fst := by
  induction entries generalizing library with
  | nil =>
    obtain rfl : library = loaded := Option.some.inj h
    exact ⟨hnumbered,rfl,fun number => by simp⟩
  | cons entry entries ih =>
    rw [List.foldlM_cons] at h
    obtain ⟨next,hnext,hrest⟩ := Option.bind_eq_some_iff.mp h
    obtain ⟨handler,hhandler,rfl⟩ := loadLibrary_eq_some hnext
    obtain ⟨hnum,haggregators,hmem⟩ := ih hrest (hnumbered.emplaceHandler hhandler)
    refine ⟨hnum,?_,?_⟩
    · rw [haggregators, ModuleLibrary.emplaceHandler]
      split <;> rfl
    · intro number
      rw [hmem, mem_emplaceHandler, List.map_cons, List.mem_cons]
      tauto

/-! ## After the status aggregators are made -/

/-- A status aggregator works with the handler that is filed under its number. -/
def Aligned (library : ModuleLibrary β) : Prop := ∀ number module_,
  library.statusAggregators.lookup number = some module_ → library.handlerAt number = some module_

theorem hasEndpoint_iff {settings : Settings} {number : ℤ} : hasEndpoint settings number = true ↔
    ∃ connection ∈ settings.externalConnectionSettingsList, number ∈ connection.modules := by
  simp [hasEndpoint]

theorem handlerAt_of_lookup {library : ModuleLibrary β} {number : ℤ} {handler : IModuleManagerLibraryHandler β}
    (h : library.moduleLibraryHandlers.lookup number = some (some handler)) :
    library.handlerAt number = some handler.toModuleLibraryHandler := by
  rw [handlerAt, h]
  rfl

/-- One round: a module with an endpoint has a status aggregator afterwards. -/
theorem initStatusAggregator_eq_some {settings : Settings} {library started : ModuleLibrary β} {number : ℤ}
    {handler : IModuleManagerLibraryHandler β} (hnumber : handler.getModuleNumber = number)
    (hlookup : library.moduleLibraryHandlers.lookup number = some (some handler)) (haligned : library.Aligned)
    (h : library.initStatusAggregator settings (some handler) = some started) :
    started.moduleLibraryHandlers = library.moduleLibraryHandlers ∧ started.Aligned ∧
      (∀ n, n ∈ library.statusAggregators → n ∈ started.statusAggregators) ∧
      (hasEndpoint settings number = true → number ∈ started.statusAggregators) := by
  subst hnumber
  simp only [initStatusAggregator] at h
  split at h
  · rename_i hmem
    obtain rfl := Option.some.inj h
    exact ⟨rfl,haligned,fun _ hn => hn,fun _ => hmem⟩
  · split at h
    · obtain rfl := Option.some.inj h
      refine ⟨rfl,?_,fun n hn => (AList.mem_insert _).mpr (.inr hn),fun _ => (AList.mem_insert _).mpr (.inl rfl)⟩
      intro n module_ hn
      by_cases heq : n = handler.getModuleNumber
      · subst heq
        rw [AList.lookup_insert] at hn
        rw [← Option.some.inj hn]
        exact handlerAt_of_lookup hlookup
      · rw [AList.lookup_insert_ne heq] at hn
        exact haligned n module_ hn
    · rename_i hno
      obtain rfl := Option.some.inj h
      exact ⟨rfl,haligned,fun _ hn => hn,fun hendpoint => absurd hendpoint hno⟩

/-- The loop over handlers that are all filed under their numbers. -/
theorem foldlM_initStatusAggregator {settings : Settings}
    {entries : List ((_ : ℤ) × Option (IModuleManagerLibraryHandler β))} {library started : ModuleLibrary β}
    (h : entries.foldlM (fun library entry => library.initStatusAggregator settings entry.2) library = some started)
    (hentries : ∀ entry ∈ entries, library.moduleLibraryHandlers.lookup entry.1 = some entry.2)
    (hnumbered : library.Numbered) (haligned : library.Aligned) :
    started.moduleLibraryHandlers = library.moduleLibraryHandlers ∧ started.Aligned ∧
      (∀ n, n ∈ library.statusAggregators → n ∈ started.statusAggregators) ∧
      ∀ entry ∈ entries, hasEndpoint settings entry.1 = true → entry.1 ∈ started.statusAggregators := by
  induction entries generalizing library with
  | nil =>
    obtain rfl : library = started := Option.some.inj h
    exact ⟨rfl,haligned,fun _ hn => hn,fun _ hmem => nomatch hmem⟩
  | cons entry entries ih =>
    rw [List.foldlM_cons] at h
    obtain ⟨next,hnext,hrest⟩ := Option.bind_eq_some_iff.mp h
    have hlookup := hentries entry List.mem_cons_self
    obtain ⟨handler,hhandler,hnumber⟩ := hnumbered entry.1 entry.2 hlookup
    rw [hhandler] at hlookup hnext
    obtain ⟨hhandlers,hnextAligned,hkept,hentry⟩ :=
      initStatusAggregator_eq_some hnumber hlookup haligned hnext
    have hnextNumbered : next.Numbered := by
      unfold Numbered
      rwa [hhandlers]
    obtain ⟨hsame,hstarted,hkept',hrest⟩ := ih hrest
      (fun e he => hhandlers ▸ hentries e (List.mem_cons_of_mem entry he)) hnextNumbered hnextAligned
    refine ⟨hsame.trans hhandlers,hstarted,fun n hn => hkept' n (hkept n hn),?_⟩
    intro e he hendpoint
    rcases List.mem_cons.mp he with rfl | he
    · exact hkept' e.1 (hentry hendpoint)
    · exact hrest e he hendpoint

/-- The library at the end of start-up. -/
structure Complete (settings : Settings) (library : ModuleLibrary β) : Prop where
  handlers : ∀ number, hasEndpoint settings number = true → ∃ handler : IModuleManagerLibraryHandler β,
    library.moduleLibraryHandlers.lookup number = some (some handler) ∧ handler.getModuleNumber = number
  aggregators : ∀ number, hasEndpoint settings number = true → number ∈ library.statusAggregators
  aligned : library.Aligned

/-- Settings that pass the validation, and a library that loads, leave no module of an endpoint without
a handler and a status aggregator. -/
theorem complete_of_areSettingsCorrect {exists_ : String → Bool} {settings : Settings} {loader : LibraryLoader β}
    {loaded library : ModuleLibrary β} (hcorrect : areSettingsCorrect exists_ settings = true)
    (hloaded : init.loadLibraries loader settings.modulePaths settings.moduleBinaryPath = some loaded)
    (hlibrary : loaded.initStatusAggregators settings = some library) : library.Complete settings := by
  have hinit : (init : ModuleLibrary β).Numbered := fun _ _ h => nomatch h
  obtain ⟨hnumbered,haggregators,hmem⟩ := foldlM_loadLibrary hloaded hinit
  have hempty : loaded.Aligned := by
    intro number module_ h
    rw [haggregators] at h
    cases h
  have hentries : ∀ entry ∈ loaded.moduleLibraryHandlers.entries,
      loaded.moduleLibraryHandlers.lookup entry.1 = some entry.2 :=
    fun entry hentry => AList.mem_lookup_iff.mpr hentry
  obtain ⟨hsame,haligned,-,hstarted⟩ := foldlM_initStatusAggregator hlibrary hentries hnumbered hempty
  -- a module of an endpoint has a path, so it was loaded
  have hfiled : ∀ number, hasEndpoint settings number = true →
      ∃ libraryHandler, loaded.moduleLibraryHandlers.lookup number = some libraryHandler := by
    intro number hendpoint
    obtain ⟨connection,hconnection,hnumber⟩ := hasEndpoint_iff.mp hendpoint
    have hpath := mem_modulePaths_of_areSettingsCorrect hcorrect hconnection hnumber
    exact Option.isSome_iff_exists.mp (AList.lookup_isSome.mpr ((hmem number).mpr (.inr hpath)))
  refine ⟨?_,?_,haligned⟩
  · intro number hendpoint
    obtain ⟨libraryHandler,hlookup⟩ := hfiled number hendpoint
    obtain ⟨handler,rfl,hnumber⟩ := hnumbered number libraryHandler hlookup
    exact ⟨handler,hsame ▸ hlookup,hnumber⟩
  · intro number hendpoint
    obtain ⟨libraryHandler,hlookup⟩ := hfiled number hendpoint
    exact hstarted ⟨number,libraryHandler⟩ (AList.mem_lookup_iff.mp hlookup) hendpoint

end ModuleLibrary

end ModuleGateway.Structures
