import SloCompiler.Proofs.Rejections

namespace SloCompiler

namespace Mixin

variable {c : MixinConfig} {registry : Registry}

def readSli (sli : String × String × Value) : Except Fault SliSpec :=
  SliSpec.read sli.2.2 (.str sli.1) (.str sli.2.1)

def compileSli (c : MixinConfig) (registry : Registry) (sli : String × String × Value) :
    Except Fault CompiledSli :=
  readSli sli >>= CompiledSli.compile c registry (.str sli.1) (.str sli.2.1)

def readEntry (sli : String × String × Value) : Except Fault (Value × Value × SliSpec) :=
  (readSli sli).map fun spec => (.str sli.1, .str sli.2.1, spec)

theorem readEntry_exists {sli : String × String × Value}
    (readable : ∃ spec, readSli sli = .ok spec) : ∃ entry, readEntry sli = .ok entry := by
  obtain ⟨spec, read⟩ := readable
  exact ⟨_, map_ok.mpr ⟨spec, read, rfl⟩⟩

theorem readProduct_entries (product : String) (slis : List (String × Value)) :
    (SliTable.readProduct (.str product) (.object slis)).map
        (List.map fun named => (.str product, named.1, named.2)) =
      (slis.map fun named => (product, named.1, named.2)).mapM readEntry := by
  rw [Value.object, SliTable.readProduct, map_mapM, Entries.ofFields, List.mapM_map, List.mapM_map]
  refine congrArg (slis.mapM ·) (funext fun named => ?_)
  simp only [Function.comp_apply, readEntry, readSli]
  cases SliSpec.read named.2 (.str product) (.str named.1) <;> rfl

theorem read_entries (slis : SliMap) :
    (SliTable.read slis.toValue).map entries = slis.entries.mapM readEntry := by
  induction slis with
  | nil => rfl
  | cons row slis ih =>
    obtain ⟨product, named⟩ := row
    have split : SliMap.entries ((product, named) :: slis) =
        (named.map fun sli => (product, sli.1, sli.2)) ++ SliMap.entries slis := rfl
    have rows : SliTable.read (SliMap.toValue ((product, named) :: slis)) = (do
        let specs ← SliTable.readProduct (.str product) (.object named)
        let table ← SliTable.read (SliMap.toValue slis)
        return (.str product, specs) :: table) := by
      simp only [SliMap.toValue, Value.object, Entries.ofFields, List.map_cons, SliTable.read,
        List.mapM_cons, bind_assoc, pure_bind]
    rw [split, List.mapM_append, ← readProduct_entries, ← ih, rows]
    cases SliTable.readProduct (.str product) (.object named) with
    | error f => rfl
    | ok specs => cases SliTable.read (SliMap.toValue slis) <;> rfl

-- All SLIs are read before the first is compiled.
theorem buildFrom_phases {config : Value} (configured : MixinConfig.read config = .ok c)
    (slis : SliMap) : buildFrom config slis.toValue registry = (do
      let listed ← slis.entries.mapM readEntry
      let compiled ← listed.mapM fun (product, sliId, spec) =>
        CompiledSli.compile c registry product sliId spec
      assemble c compiled) := by
  rw [buildFrom, configured, ← read_entries]
  cases SliTable.read slis.toValue <;> rfl

theorem readEntry_compile (c : MixinConfig) (registry : Registry) (sli : String × String × Value) :
    (readEntry sli >>= fun (product, sliId, spec) =>
      CompiledSli.compile c registry product sliId spec) = compileSli c registry sli := by
  rw [readEntry, compileSli]
  cases readSli sli <;> rfl

section Failures

variable {config : Value} {slis : SliMap} {sli : String × String × Value} {f : Fault}

theorem buildFrom_unread (configured : MixinConfig.read config = .ok c)
    (first : FirstError readSli slis.entries sli f) :
    buildFrom config slis.toValue registry = .error f := by
  obtain ⟨before, after, shape, earlier, failed⟩ := first
  have unread : slis.entries.mapM readEntry = .error f :=
    mapM_firstError.mpr ⟨sli, before, after, shape,
      fun other member => readEntry_exists (earlier other member), map_error.mpr failed⟩
  rw [buildFrom_phases configured, unread]
  rfl

theorem buildFrom_uncompiled (configured : MixinConfig.read config = .ok c)
    (readable : ∀ sli ∈ slis.entries, ∃ spec, readSli sli = .ok spec)
    (first : FirstError (compileSli c registry) slis.entries sli f) :
    buildFrom config slis.toValue registry = .error f := by
  rw [buildFrom_phases configured, ← bind_assoc,
    mapM_bind_mapM fun sli member => readEntry_exists (readable sli member)]
  simp only [readEntry_compile]
  rw [mapM_firstError.mpr ⟨sli, first⟩]
  rfl

theorem readSli_attributed {e : BuildError} (failed : readSli sli = .error (.build e)) :
    e.product = .str sli.1 ∧ e.sliId = .str sli.2.1 := by
  rcases SliSpec.read_error (.inr ⟨_, rfl⟩) (.inr ⟨_, rfl⟩) failed with ⟨cause, same, _⟩ | ⟨same, _⟩
  · cases same
    exact ⟨rfl, rfl⟩
  · cases same

theorem compileSli_attributed (readable : ∃ spec, readSli sli = .ok spec)
    (failed : compileSli c Registry.standard sli = .error f) :
    ∃ e : BuildError, f = .build e ∧ e.product = .str sli.1 ∧ e.sliId = .str sli.2.1 := by
  obtain ⟨spec, read⟩ := readable
  have ends := CompiledSli.compile_ends (SliSpec.read_accepts read) c sli.1 sli.2.1
  rw [compileSli, read] at failed
  change CompiledSli.compile c _ _ _ spec = _ at failed
  rw [failed] at ends
  cases ends <;> exact ⟨_, rfl, rfl, rfl⟩

end Failures

-- A build that fails for one of its SLIs says for which. What cannot be read comes before what
-- does not compile, and of either the first counts; an SLI that does not compile fails as it does
-- alone.
theorem buildFrom_attributes {config : Value} (configured : MixinConfig.read config = .ok c)
    (slis : SliMap) :
    ((∃ sli ∈ slis.entries, ¬∃ spec, readSli sli = .ok spec) →
        ∃ sli f, FirstError readSli slis.entries sli f ∧
          buildFrom config slis.toValue Registry.standard = .error f ∧
          ∀ e, f = .build e → e.product = .str sli.1 ∧ e.sliId = .str sli.2.1) ∧
      ((∀ sli ∈ slis.entries, ∃ spec, readSli sli = .ok spec) →
        (∃ sli ∈ slis.entries, ¬∃ s, compileSli c Registry.standard sli = .ok s) →
        ∃ sli e, FirstError (compileSli c Registry.standard) slis.entries sli (.build e) ∧
          buildFrom config slis.toValue Registry.standard = .error (.build e) ∧
          buildFrom config (SliMap.one sli.1 sli.2.1 sli.2.2).toValue Registry.standard =
            .error (.build e) ∧
          e.product = .str sli.1 ∧ e.sliId = .str sli.2.1) := by
  constructor
  · intro unread
    obtain ⟨sli, f, first⟩ := firstError_exists unread
    refine ⟨sli, f, first, buildFrom_unread configured first, ?_⟩
    rintro e rfl
    obtain ⟨_, _, _, _, failed⟩ := first
    exact readSli_attributed failed
  · intro readable uncompiled
    obtain ⟨sli, f, first⟩ := firstError_exists uncompiled
    obtain ⟨before, after, shape, _, failed⟩ := id first
    have own : ∃ spec, readSli sli = .ok spec :=
      readable sli (shape ▸ List.mem_append_right _ List.mem_cons_self)
    obtain ⟨e, rfl, product, sliId⟩ := compileSli_attributed own failed
    have alone : FirstError (compileSli c Registry.standard)
        (SliMap.one sli.1 sli.2.1 sli.2.2).entries sli (.build e) :=
      ⟨[], [], rfl, List.forall_mem_nil _, failed⟩
    exact ⟨sli, e, first, buildFrom_uncompiled configured readable first,
      buildFrom_uncompiled configured (List.forall_mem_singleton.mpr own) alone, product, sliId⟩

end Mixin

namespace Sample

def unread : Mixin.SliMap :=
  [("shop", [("cart", spec "nothing" "1m")]), ("mail", [("send", spec "up" "")])]

def uncompiled : Mixin.SliMap :=
  [("shop", [("cart", spec "up" "1m"), ("pay", spec "nothing" "1m")]),
    ("mail", [("send", spec "nobody" "1m")])]

theorem unread_fails : ∃ sli ∈ unread.entries, ¬∃ spec, Mixin.readSli sli = .ok spec := by
  have failing : ∃ sli ∈ unread.entries, (Mixin.readSli sli).isOk = false := by decide +kernel
  obtain ⟨sli, member, failed⟩ := failing
  exact ⟨sli, member, fun read => by simp [isOk_iff.mpr read] at failed⟩

theorem uncompiled_readable :
    ∀ sli ∈ uncompiled.entries, ∃ spec, Mixin.readSli sli = .ok spec := by
  have readable : ∀ sli ∈ uncompiled.entries, (Mixin.readSli sli).isOk = true := by decide +kernel
  exact fun sli member => isOk_iff.mp (readable sli member)

theorem uncompiled_fails (c : MixinConfig) :
    ∃ sli ∈ uncompiled.entries, ¬∃ s, Mixin.compileSli c Registry.standard sli = .ok s := by
  refine ⟨("shop", "pay", spec "nothing" "1m"), List.mem_cons_of_mem _ List.mem_cons_self, ?_⟩
  rintro ⟨s, made⟩
  obtain ⟨found, read, compiled⟩ := bind_ok.mp made
  have tag : found.metricType = "nothing" :=
    (Except.ok.inj (SliSpec.read_accepts read).metricType).symm
  have unknown : Registry.standard.contains found.metricType = false := by
    rw [tag]
    rfl
  rw [CompiledSli.compile_unmeasured (CompiledSli.measure_unknown unknown)] at compiled
  cases compiled

end Sample

namespace Mixin

theorem sample_attributes : ∃ c, MixinConfig.read Sample.config = .ok c ∧
    (∃ sli f, FirstError readSli Sample.unread.entries sli f ∧
      buildFrom Sample.config Sample.unread.toValue Registry.standard = .error f ∧
      ∀ e, f = .build e → e.product = .str sli.1 ∧ e.sliId = .str sli.2.1) ∧
    ∃ sli e, FirstError (compileSli c Registry.standard) Sample.uncompiled.entries sli (.build e) ∧
      buildFrom Sample.config Sample.uncompiled.toValue Registry.standard = .error (.build e) ∧
      buildFrom Sample.config (SliMap.one sli.1 sli.2.1 sli.2.2).toValue Registry.standard =
        .error (.build e) ∧
      e.product = .str sli.1 ∧ e.sliId = .str sli.2.1 := by
  obtain ⟨c, configured⟩ := Sample.config_read
  exact ⟨c, configured, (buildFrom_attributes configured Sample.unread).1 Sample.unread_fails,
    (buildFrom_attributes configured Sample.uncompiled).2 Sample.uncompiled_readable
      (Sample.uncompiled_fails c)⟩

end Mixin

end SloCompiler
