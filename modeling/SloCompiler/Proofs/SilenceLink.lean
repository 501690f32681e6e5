import SloCompiler.Proofs.Assembly
import SloCompiler.Proofs.EmptyAggregation
import SloCompiler.Proofs.PercentEncoding

namespace SloCompiler

namespace Clause

def isEscaped (c : Char) : Bool := c == '"' || c == '\\'

theorem isEscaped_iff {c : Char} : isEscaped c = true ↔ c = '"' ∨ c = '\\' := by
  simp [isEscaped]

theorem escape_plain {cs : List Char} (plain : ∀ c ∈ cs, isEscaped c = false) :
    escape cs = cs := by
  induction cs with
  | nil => rfl
  | cons c cs ih =>
    obtain ⟨first, rest⟩ := List.forall_mem_cons.mp plain
    have other : ¬(c = '"' ∨ c = '\\') := by rw [← isEscaped_iff, first, Bool.not_eq_true]
    rw [Check.escape_other other, ih rest]

theorem escape_length (cs : List Char) :
    (escape cs).length = cs.length + cs.countP isEscaped := by
  induction cs with
  | nil => rfl
  | cons c cs ih =>
    by_cases special : c = '"' ∨ c = '\\'
    · rw [Check.escape_special special, List.countP_cons_of_pos (isEscaped_iff.mpr special)]
      simp only [List.length_cons, ih]
      omega
    · rw [Check.escape_other special, List.countP_cons_of_neg (isEscaped_iff.not.mpr special)]
      simp only [List.length_cons, ih]
      omega

end Clause

namespace SliIdentity

def plainSelector (i : SliIdentity) : String :=
  "\x7bproduct=\"" ++ i.product ++ "\", sliId=\"" ++ i.sliId ++ "\"\x7d"

theorem plainSelector_toList (i : SliIdentity) : i.plainSelector.toList =
    "\x7bproduct=\"".toList ++ (i.product.toList ++ ("\", sliId=\"".toList ++
      (i.sliId.toList ++ "\"\x7d".toList))) := by
  simp [plainSelector]

theorem renderSelector_toList (i : SliIdentity) : (renderSelector i.clauses).toList =
    "\x7bproduct=\"".toList ++ (Clause.escape i.product.toList ++ ("\", sliId=\"".toList ++
      (Clause.escape i.sliId.toList ++ "\"\x7d".toList))) := by
  simp [renderSelector, clauses, Clause.render, MatchOperator.text]

def Unescaped (i : SliIdentity) : Prop :=
  ∀ c ∈ i.product.toList ++ i.sliId.toList, c ≠ '"' ∧ c ≠ '\\'

theorem unescaped_iff (i : SliIdentity) : i.Unescaped ↔
    (∀ c ∈ i.product.toList, Clause.isEscaped c = false) ∧
      ∀ c ∈ i.sliId.toList, Clause.isEscaped c = false := by
  rw [← List.forall_mem_append]
  exact forall₂_congr fun c _ => by rw [← Bool.not_eq_true, Clause.isEscaped_iff, not_or]

theorem plainSelector_eq_iff (i : SliIdentity) :
    i.plainSelector = renderSelector i.clauses ↔ i.Unescaped := by
  rw [← String.toList_inj, plainSelector_toList, renderSelector_toList, unescaped_iff]
  constructor
  · intro same
    have lengths := congrArg List.length same
    simp only [List.length_append, Clause.escape_length] at lengths
    have product : i.product.toList.countP Clause.isEscaped = 0 := by omega
    have sliId : i.sliId.toList.countP Clause.isEscaped = 0 := by omega
    simp only [List.countP_eq_zero, Bool.not_eq_true] at product sliId
    exact ⟨product, sliId⟩
  · rintro ⟨product, sliId⟩
    rw [Clause.escape_plain product, Clause.escape_plain sliId]

end SliIdentity

def SliMetadata.identity (metadata : SliMetadata) : SliIdentity :=
  ⟨metadata.product, metadata.sliId⟩

namespace AlertingRule

variable (config : MixinConfig) (spec : SliSpec) (metadata : SliMetadata)

theorem ofSli_expr : (ofSli config spec metadata).expr =
    complianceRecord ++ renderSelector metadata.identity.clauses ++ " < " ++
      spec.sloTarget.plain := by
  rw [ofSli, Slo.breach, Expr.render_binary, SliIdentity.render_series, Expr.render_text]
  simp [SliMetadata.identity, String.append_assoc]

theorem ofSli_silence : Ordered.get? (ofSli config spec metadata).annotations "silence_url" =
    some (config.alertmanagerUrl ++ "/#/silences/new?filter=" ++
      Alert.silenceFilter metadata.identity) := by
  simp [ofSli, Alert.annotations, Ordered.get?, List.lookup_cons, SliMetadata.identity]

theorem silenceFilter_decoded (identity : SliIdentity) :
    Text.percentDecode? (Alert.silenceFilter identity) = some identity.plainSelector :=
  Text.percentDecode?_percentEncode _

-- The link of an alert silences the matchers with the names as they are. These are the matchers of
-- the series that the alert looks at exactly if nothing in the names has to be escaped.
theorem silences_own_iff : ∃ alert filter,
    forSli config spec metadata.labels = .ok alert ∧
      Ordered.get? alert.annotations "silence_url" =
        some (config.alertmanagerUrl ++ "/#/silences/new?filter=" ++ filter) ∧
      alert.expr = complianceRecord ++ renderSelector metadata.identity.clauses ++ " < " ++
        spec.sloTarget.plain ∧
      Text.percentDecode? filter = some metadata.identity.plainSelector ∧
      (Text.percentDecode? filter = some (renderSelector metadata.identity.clauses) ↔
        metadata.identity.Unescaped) := by
  refine ⟨ofSli config spec metadata, _, forSli_eq config spec metadata,
    ofSli_silence config spec metadata, ofSli_expr config spec metadata,
    silenceFilter_decoded _, ?_⟩
  rw [silenceFilter_decoded, Option.some.injEq]
  exact metadata.identity.plainSelector_eq_iff

theorem quoted_silences_other : ∃ config spec alert filter,
    MixinConfig.read Sample.config = .ok config ∧
      SliSpec.read (Sample.spec "up" "1m") (.str "a\"b") (.str "s") = .ok spec ∧
      forSli config spec (SliMetadata.labels ⟨"a\"b", "s", spec.sliType⟩) = .ok alert ∧
      Ordered.get? alert.annotations "silence_url" =
        some (config.alertmanagerUrl ++ "/#/silences/new?filter=" ++ filter) ∧
      filter = "%7Bproduct%3D%22a%22b%22%2C%20sliId%3D%22s%22%7D" ∧
      Text.percentDecode? filter = some "\x7bproduct=\"a\"b\", sliId=\"s\"\x7d" ∧
      renderSelector (SliIdentity.mk "a\"b" "s").clauses =
        "\x7bproduct=\"a\\\"b\", sliId=\"s\"\x7d" ∧
      Text.percentDecode? filter ≠ some (renderSelector (SliIdentity.mk "a\"b" "s").clauses) := by
  obtain ⟨config, configured⟩ := Sample.config_read
  obtain ⟨spec, accepted⟩ : ∃ spec,
      SliSpec.read (Sample.spec "up" "1m") (.str "a\"b") (.str "s") = .ok spec :=
    isOk_iff.mp (by decide +kernel)
  have encoded : Alert.silenceFilter ⟨"a\"b", "s"⟩ =
      "%7Bproduct%3D%22a%22b%22%2C%20sliId%3D%22s%22%7D" := by decide +kernel
  have decoded := silenceFilter_decoded ⟨"a\"b", "s"⟩
  refine ⟨config, spec, _, Alert.silenceFilter ⟨"a\"b", "s"⟩, configured, accepted,
    forSli_eq config spec ⟨"a\"b", "s", spec.sliType⟩,
    ofSli_silence config spec ⟨"a\"b", "s", spec.sliType⟩, encoded, decoded,
    by decide +kernel, ?_⟩
  rw [decoded]
  decide +kernel

end AlertingRule

end SloCompiler
