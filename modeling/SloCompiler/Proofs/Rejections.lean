import SloCompiler.Proofs.Acceptance
import SloCompiler.Proofs.Compilation
import SloCompiler.Proofs.DurationReading

namespace SloCompiler

def buildErrorKinds : List ErrorKind :=
  [.configuration, .malformedSpec, .unknownMetricType, .missingSpecField, .invalidRules]

theorem malformedSpec_listed : ErrorKind.malformedSpec ∈ buildErrorKinds := by decide

structure BuildError.Regular (e : BuildError) : Prop where
  kind : e.kind ∈ buildErrorKinds
  product : e.product.Nameable
  sliId : e.sliId.Nameable

namespace Fault

def Regular (f : Fault) : Prop := ∃ e : BuildError, f = .build e ∧ e.Regular

theorem ofCause_regular {cause : Cause} (kind : cause.kind ∈ buildErrorKinds) :
    (ofCause cause).Regular := ⟨_, rfl, kind, .inl rfl, .inl rfl⟩

theorem ofBuildError_regular {e : BuildError} (regular : e.Regular) : (ofBuildError e).Regular :=
  ⟨e, BuildError.raised regular.product regular.sliId, regular⟩

theorem ofBuildError_ne_overflow (e : BuildError) : ofBuildError e ≠ .overflow := by
  unfold ofBuildError
  split <;> exact fun same => by cases same

end Fault

theorem MixinConfig.read_error {v : Value} {f : Fault} (refused : read v = .error f) :
    f.Regular := by
  unfold read at refused
  split at refused
  · obtain ⟨issues, _, rfl⟩ := mapError_error.mp refused
    exact Fault.ofCause_regular (by simp [Cause.kind, buildErrorKinds])
  · cases refused
    exact Fault.ofCause_regular (by decide)

namespace SliSpec
open Schema

def OverlongIn (name : FieldName) (raw : Value) : Prop :=
  ∃ place found s, name.find? raw = some (place, found) ∧ text found = .ok s ∧ Duration.TooLong s

theorem OverlongIn.map {name : FieldName} {raw : Value} (long : OverlongIn name raw) :
    ∃ entries, raw = .map entries := by
  obtain ⟨place, found, _, given, _⟩ := long
  cases raw with
  | map entries => exact ⟨entries, rfl⟩
  | _ => cases given

def Overlong (raw : Value) : Prop := OverlongIn evalIntervalName raw ∨ OverlongIn periodName raw

theorem durationText_error {v : Value} {f : Fault} :
    durationText v = .error f ↔ f = .overflow ∧ ∃ s, text v = .ok s ∧ Duration.TooLong s := by
  unfold durationText
  cases read : text v with
  | error found => simp
  | ok s =>
    cases parsed : Duration.parse s with
    | ok d => simp [← Duration.parse_overflow_iff, parsed]
    | error fault =>
      rcases Duration.parse_error parsed with rfl | ⟨cause, rfl⟩
      · simp [← Duration.parse_overflow_iff, parsed, eq_comm]
      · simp [← Duration.parse_overflow_iff, parsed]

theorem durationField_error {name : FieldName} {default : String} {v : Value} {f : Fault} :
    durationField name default v = .error f ↔ f = .overflow ∧ OverlongIn name v := by
  unfold durationField OverlongIn
  cases given : name.find? v with
  | none => simp
  | some entry =>
    obtain ⟨place, found⟩ := entry
    simp [map_error, durationText_error]

theorem check_error {v : Value} {f : Fault} : check v = .error f ↔ f = .overflow ∧ Overlong v := by
  unfold check
  rw [bind_error]
  constructor
  · rintro (first | ⟨_, _, rest⟩)
    · obtain ⟨same, long⟩ := durationField_error.mp first
      exact ⟨same, .inl long⟩
    · rcases bind_error.mp rest with second | ⟨_, _, kept⟩
      · obtain ⟨same, long⟩ := durationField_error.mp second
        exact ⟨same, .inr long⟩
      · cases kept
  · rintro ⟨rfl, first | second⟩
    · exact .inl (durationField_error.mpr ⟨rfl, first⟩)
    · cases given : durationField evalIntervalName "1m" v with
      | error fault => exact .inl (by rw [(durationField_error.mp given).1])
      | ok interval =>
        exact .inr ⟨interval, rfl, bind_error.mpr (.inl (durationField_error.mpr ⟨rfl, second⟩))⟩

theorem read_error {v product sliId : Value} (named : product.Nameable) (called : sliId.Nameable)
    {f : Fault} (refused : read v product sliId = .error f) :
    (∃ cause : Cause, f = .build ⟨cause, product, sliId⟩ ∧ cause.kind = .malformedSpec) ∨
      f = .overflow ∧ Overlong v := by
  have raised (cause : Cause) : Fault.ofBuildError ⟨cause, product, sliId⟩ =
      .build ⟨cause, product, sliId⟩ := BuildError.raised named called
  unfold read at refused
  split at refused
  · rcases bind_error.mp refused with failed | ⟨found, _, refused⟩
    · exact .inr (check_error.mp failed)
    · cases found with
      | ok spec => cases refused
      | error issues =>
        cases refused
        exact .inl ⟨.spec issues, raised _, rfl⟩
  · cases refused
    exact .inl ⟨.specNotMapping v.kindName, raised _, rfl⟩

theorem read_overflow {v product sliId : Value} :
    read v product sliId = .error .overflow ↔ Overlong v := by
  unfold read
  split
  · rw [bind_error, check_error]
    constructor
    · rintro (⟨_, long⟩ | ⟨found, _, refused⟩)
      · exact long
      · cases found with
        | ok spec => cases refused
        | error issues => exact absurd (Except.error.inj refused) (Fault.ofBuildError_ne_overflow _)
    · exact fun long => .inl ⟨rfl, long⟩
  · next other =>
    constructor
    · exact fun refused => absurd (Except.error.inj refused) (Fault.ofBuildError_ne_overflow _)
    · intro long
      obtain ⟨entries, rfl⟩ := long.elim OverlongIn.map OverlongIn.map
      exact absurd rfl (other entries)

end SliSpec

structure TextKeyed (slis : Value) : Prop where
  products : ∀ row ∈ slis.entries, ∃ product, row.1 = .str product
  slis : ∀ row ∈ slis.entries, ∀ sli ∈ row.2.entries, ∃ sliId, sli.1 = .str sliId

theorem TextKeyed.declared {slis : Value} (keyed : TextKeyed slis) : ∀ sli ∈ declaredSlis slis,
    (∃ product, sli.1 = .str product) ∧ ∃ sliId, sli.2.1 = .str sliId := by
  intro sli member
  obtain ⟨row, listed, own⟩ := List.mem_flatMap.mp member
  obtain ⟨named, given, rfl⟩ := List.mem_map.mp own
  exact ⟨keyed.products row listed, keyed.slis row listed named given⟩

-- Reading comes to a spec with a duration that is too long before anything else stops it.
inductive OverflowsFirst : Value → Prop where
  | intro {before after earlier later : Entries} {product sliId raw : Value}
    (products : ∀ row ∈ before, ∃ specs, SliTable.readProduct row.1 row.2 = .ok specs)
    (slis : ∀ sli ∈ earlier, ∃ spec, SliSpec.read sli.2 product sli.1 = .ok spec)
    (long : SliSpec.Overlong raw) :
    OverflowsFirst (.map (before ++ (product, .map (earlier ++ (sliId, raw) :: later)) :: after))

namespace SliTable

theorem readProduct_error {product v : Value} (named : product.Nameable)
    (called : ∀ sli ∈ v.entries, sli.1.Nameable) {f : Fault}
    (refused : readProduct product v = .error f) : f.Regular ∨ f = .overflow := by
  unfold readProduct at refused
  split at refused
  · next slis =>
    obtain ⟨before, ⟨sliId, raw⟩, after, rfl, _, failed⟩ := mapM_error.mp refused
    have called := called (sliId, raw) (List.mem_append_right _ List.mem_cons_self)
    rcases SliSpec.read_error named called (map_error.mp failed) with ⟨cause, rfl, kind⟩ | long
    · refine .inl ⟨_, rfl, ?_, named, called⟩
      rw [BuildError.kind, kind]
      exact malformedSpec_listed
    · exact .inr long.1
  · cases refused
    exact .inl (Fault.ofBuildError_regular ⟨malformedSpec_listed, named, .inl rfl⟩)

theorem read_error {slis : Value} (keyed : TextKeyed slis) {f : Fault}
    (refused : read slis = .error f) : f.Regular ∨ f = .overflow := by
  unfold read at refused
  split at refused
  · next products =>
    obtain ⟨before, ⟨product, v⟩, after, rfl, _, failed⟩ := mapM_error.mp refused
    have listed : (product, v) ∈ before ++ (product, v) :: after :=
      List.mem_append_right _ List.mem_cons_self
    have failed := (bind_error.mp failed).resolve_right fun ⟨_, _, kept⟩ => by cases kept
    exact readProduct_error (.inr (keyed.products _ listed))
      (fun sli member => .inr (keyed.slis _ listed sli member)) failed
  · cases refused
    exact .inl (Fault.ofCause_regular (by decide))

theorem readProduct_overflow {product v : Value} :
    readProduct product v = .error .overflow ↔ ∃ earlier sliId raw later,
      v = .map (earlier ++ (sliId, raw) :: later) ∧
        (∀ sli ∈ earlier, ∃ spec, SliSpec.read sli.2 product sli.1 = .ok spec) ∧
          SliSpec.Overlong raw := by
  unfold readProduct
  split
  · next slis =>
    rw [mapM_error]
    constructor
    · rintro ⟨earlier, ⟨sliId, raw⟩, later, rfl, each, failed⟩
      refine ⟨earlier, sliId, raw, later, rfl, fun sli member => ?_,
        SliSpec.read_overflow.mp (map_error.mp failed)⟩
      obtain ⟨_, made⟩ := each sli member
      obtain ⟨spec, read, _⟩ := map_ok.mp made
      exact ⟨spec, read⟩
    · rintro ⟨earlier, sliId, raw, later, shape, each, long⟩
      cases shape
      refine ⟨earlier, (sliId, raw), later, rfl, fun sli member => ?_,
        map_error.mpr (SliSpec.read_overflow.mpr long)⟩
      obtain ⟨spec, read⟩ := each sli member
      exact ⟨_, map_ok.mpr ⟨spec, read, rfl⟩⟩
  · next other =>
    constructor
    · exact fun refused => absurd (Except.error.inj refused) (Fault.ofBuildError_ne_overflow _)
    · rintro ⟨earlier, sliId, raw, later, rfl, _, _⟩
      exact absurd rfl (other _)

theorem read_overflow {slis : Value} : read slis = .error .overflow ↔ OverflowsFirst slis := by
  unfold read
  split
  · next products =>
    rw [mapM_error]
    constructor
    · rintro ⟨before, ⟨product, v⟩, after, rfl, each, failed⟩
      have failed := (bind_error.mp failed).resolve_right fun ⟨_, _, kept⟩ => by cases kept
      obtain ⟨earlier, sliId, raw, later, rfl, slis, long⟩ := readProduct_overflow.mp failed
      refine .intro (fun row member => ?_) slis long
      obtain ⟨_, made⟩ := each row member
      obtain ⟨specs, read, _⟩ := bind_ok.mp made
      exact ⟨specs, read⟩
    · intro first
      cases first with
      | @intro before after earlier later product sliId raw rows slis long =>
        refine ⟨before, _, after, rfl, fun row member => ?_, bind_error.mpr (.inl
          (readProduct_overflow.mpr ⟨earlier, sliId, raw, later, rfl, slis, long⟩))⟩
        obtain ⟨specs, read⟩ := rows row member
        exact ⟨_, bind_ok.mpr ⟨specs, read, rfl⟩⟩
  · next other =>
    constructor
    · exact fun refused => absurd (Except.error.inj refused) (by simp [Fault.ofCause])
    · intro first
      cases first
      exact absurd rfl (other _)

end SliTable

namespace CompiledSli

variable {config : MixinConfig} {product sliId : String} {raw : Value} {spec : SliSpec} {f : Fault}

theorem compile_error (accepts : SliSpec.Accepts raw spec)
    (failed : compile config Registry.standard (.str product) (.str sliId) spec = .error f) :
    f.Regular := by
  have ends := compile_ends accepts config product sliId
  rw [failed] at ends
  cases ends <;> exact ⟨_, rfl, by simp [BuildError.kind, Cause.kind, buildErrorKinds],
    .inr ⟨product, rfl⟩, .inr ⟨sliId, rfl⟩⟩

end CompiledSli

namespace Mixin

variable {config slis : Value} {f : Fault}

theorem assemble_error {c : MixinConfig} {registry : Registry}
    {parts : List (Contribution c registry)}
    (failed : assemble c (parts.map (·.compiled)) = .error f) : f.Regular := by
  rw [assemble_parts] at failed
  have failed := map_error.mp failed
  unfold Check.requireDocuments at failed
  dsimp only at failed
  split at failed
  · cases failed
  · cases failed
    exact Fault.ofCause_regular (by simp [Cause.kind, buildErrorKinds])

theorem build_error {c : MixinConfig} {table : SliTable} (keyed : TextKeyed slis)
    (declared : SliTable.read slis = .ok table)
    (failed : build c Registry.standard table = .error f) : f.Regular := by
  rcases bind_error.mp failed with one | ⟨compiled, all, failed⟩
  · obtain ⟨before, ⟨product, sliId, spec⟩, after, shape, _, failed⟩ := mapM_error.mp one
    have listed : (product, sliId, spec) ∈ entries table :=
      shape ▸ List.mem_append_right _ List.mem_cons_self
    obtain ⟨raw, accepted⟩ := spec_read declared listed
    obtain ⟨entry, given, rfl, rfl, _⟩ :=
      forall₂_left (SliTable.read_declared declared).flip listed
    obtain ⟨⟨p, named⟩, s, called⟩ := keyed.declared entry given
    rw [named, called] at failed
    exact CompiledSli.compile_error (SliSpec.read_accepts accepted) failed
  · obtain ⟨parts, _, rfl⟩ := compileAll_ok.mp all
    exact assemble_error failed

theorem buildFrom_error (keyed : TextKeyed slis)
    (failed : buildFrom config slis Registry.standard = .error f) : f.Regular ∨ f = .overflow := by
  rcases bind_error.mp failed with unconfigured | ⟨c, _, failed⟩
  · exact .inl (MixinConfig.read_error unconfigured)
  · rcases bind_error.mp failed with undeclared | ⟨table, declared, failed⟩
    · exact SliTable.read_error keyed undeclared
    · exact .inl (build_error keyed declared failed)

theorem buildFrom_overflow (keyed : TextKeyed slis) :
    buildFrom config slis Registry.standard = .error .overflow ↔
      (∃ c, MixinConfig.read config = .ok c) ∧ OverflowsFirst slis := by
  have irregular : ¬Fault.overflow.Regular := fun ⟨_, same, _⟩ => by cases same
  constructor
  · intro failed
    rcases bind_error.mp failed with unconfigured | ⟨c, configured, failed⟩
    · exact absurd (MixinConfig.read_error unconfigured) irregular
    · rcases bind_error.mp failed with undeclared | ⟨table, declared, failed⟩
      · exact ⟨⟨c, configured⟩, SliTable.read_overflow.mp undeclared⟩
      · exact absurd (build_error keyed declared failed) irregular
  · rintro ⟨⟨c, configured⟩, first⟩
    exact bind_error.mpr (.inr ⟨c, configured,
      bind_error.mpr (.inl (SliTable.read_overflow.mpr first))⟩)

-- A build from JSON succeeds, or fails with an error that says why, unless it comes to a duration
-- too long to be measured before anything else stops it.
theorem buildFrom_rejects (keyed : TextKeyed slis) :
    ((∃ a, buildFrom config slis Registry.standard = .ok a) ∨
        (∃ e, buildFrom config slis Registry.standard = .error (.build e) ∧ e.Regular) ∨
          buildFrom config slis Registry.standard = .error .overflow) ∧
      (buildFrom config slis Registry.standard = .error .overflow ↔
        (∃ c, MixinConfig.read config = .ok c) ∧ OverflowsFirst slis) := by
  refine ⟨?_, buildFrom_overflow keyed⟩
  cases made : buildFrom config slis Registry.standard with
  | ok a => exact .inl ⟨a, rfl⟩
  | error f =>
    rcases buildFrom_error keyed made with ⟨e, rfl, regular⟩ | rfl
    · exact .inr (.inl ⟨e, rfl, regular⟩)
    · exact .inr (.inr rfl)

end Mixin

namespace Sample

def overlong : Mixin.SliMap := .one "shop" "cart" (spec "up" "1000000000d")

theorem overlong_keyed : TextKeyed overlong.toValue where
  products := List.forall_mem_singleton.mpr ⟨"shop", rfl⟩
  slis := List.forall_mem_singleton.mpr (List.forall_mem_singleton.mpr ⟨"cart", rfl⟩)

end Sample

namespace Mixin

theorem overlong_rejects :
    TextKeyed Sample.overlong.toValue ∧
      ((∃ a, buildFrom Sample.config Sample.overlong.toValue Registry.standard = .ok a) ∨
          (∃ e, buildFrom Sample.config Sample.overlong.toValue Registry.standard =
            .error (.build e) ∧ e.Regular) ∨
            buildFrom Sample.config Sample.overlong.toValue Registry.standard =
              .error .overflow) ∧
        (buildFrom Sample.config Sample.overlong.toValue Registry.standard = .error .overflow ↔
          (∃ c, MixinConfig.read Sample.config = .ok c) ∧
            OverflowsFirst Sample.overlong.toValue) :=
  ⟨Sample.overlong_keyed, buildFrom_rejects Sample.overlong_keyed⟩

theorem overlong_escapes :
    TextKeyed Sample.overlong.toValue ∧
      buildFrom Sample.config Sample.overlong.toValue Registry.standard = .error .overflow := by
  have long : SliSpec.Overlong (Sample.spec "up" "1000000000d") :=
    .inl ⟨"evalInterval", .str "1000000000d", "1000000000d", rfl, rfl,
      [("1000000000".toList, .day)], [], by decide +kernel, by decide +kernel, by decide +kernel⟩
  refine ⟨Sample.overlong_keyed,
    (buildFrom_overflow Sample.overlong_keyed).mpr ⟨Sample.config_read, ?_⟩⟩
  exact @OverflowsFirst.intro [] [] [] [] (.str "shop") (.str "cart") _ (List.forall_mem_nil _)
    (List.forall_mem_nil _) long

end Mixin

end SloCompiler
