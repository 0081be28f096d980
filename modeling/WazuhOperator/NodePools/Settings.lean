import WazuhOperator.NodePools.Workload

namespace WazuhOperator
namespace NodePools

open List

/-!
# The text of opensearch.yml

Two maps are written into the file: the attributes of the nodes, and custom
settings.  They are written in the order of an iteration over the map, which
is another one each time, and their texts are written as they are.
-/

abbrev Entry : Type := String × String

def nodeAttr (entry : Entry) : String := "node.attr." ++ entry.1 ++ ": " ++ entry.2

def attributeLine (entry : Entry) : String := nodeAttr entry ++ "\n"

def settingLine (entry : Entry) : String := entry.1 ++ ": " ++ entry.2 ++ "\n"

/-- A part of the file which is written from a map, in the order of an iteration. -/
def writeMap (comment : String) (line : Entry -> String) (entries : List Entry) : String :=
  if entries = [] then "" else comment ++ String.join (entries.map line)

def attributesComment : String := "# Node attributes for shard allocation awareness"

def writeAttributes : List Entry -> String :=
  writeMap ("\n" ++ (attributesComment ++ "\n")) attributeLine

def writeSettings : List Entry -> String := writeMap "# Custom settings\n" settingLine

/-- `OpenSearchConfig`: the two maps, each as an iteration finds it, and the texts before the
first and between them, without the line breaks at their ends. -/
structure OpenSearchConfig where
  beginning : String
  nodeAttributes : List Entry
  middle : String
  customSettings : List Entry

def OpenSearchConfig.build (config : OpenSearchConfig) : String :=
  config.beginning ++ "\n" ++ writeAttributes config.nodeAttributes ++ "\n" ++ config.middle ++ "\n" ++
    writeSettings config.customSettings

def OpenSearchConfig.hash (sha : String -> String) (config : OpenSearchConfig) : String :=
  hashMap sha (Finmap.singleton "opensearch.yml" config.build)

/-! ## The order of the entries -/

/-- The entries are written alike in both orders. -/
def Commute (line : Entry -> String) (entries : List Entry) : Prop :=
  ∀ first ∈ entries, ∀ second ∈ entries, line first ++ line second = line second ++ line first

theorem join_of_perm (same : entries.Perm others) (commute : Commute line entries) :
    String.join (entries.map line) = String.join (others.map line) := by
  induction same with
  | nil => rfl
  | cons entry _ ih =>
    simp only [map_cons, String.join_cons]
    rw [ih fun first inside second member =>
      commute first (mem_cons_of_mem _ inside) second (mem_cons_of_mem _ member)]
  | swap first second rest =>
    simp only [map_cons, String.join_cons, ← String.append_assoc]
    rw [commute second (by simp) first (by simp)]
  | trans before _ ih later =>
    refine (ih commute).trans (later fun first inside second member => ?_)
    exact commute first (before.mem_iff.mpr inside) second (before.mem_iff.mpr member)

theorem writeMap_perm_iff :
    (forall others, entries.Perm others -> writeMap comment line others = writeMap comment line entries) <->
      Commute line entries := by
  constructor
  · intro free first inside second member
    by_cases same : first = second
    · rw [same]
    have there : second ∈ entries.erase first := (mem_erase_of_ne (Ne.symm same)).mpr member
    have split : entries.Perm (first :: second :: (entries.erase first).erase second) :=
      (perm_cons_erase inside).trans ((perm_cons_erase there).cons first)
    have texts := (free _ split).trans (free _ (split.trans (.swap second first _))).symm
    apply (String.append_left_inj (String.join (((entries.erase first).erase second).map line))).mp
    simpa [writeMap, String.join_cons, String.append_assoc] using texts
  · intro commute others same
    by_cases empty : entries = []
    · rw [empty] at same ⊢
      rw [nil_perm.mp same]
    · have given : others ≠ [] := fun nothing => empty (perm_nil.mp (nothing ▸ same))
      rw [writeMap, writeMap, if_neg empty, if_neg given, join_of_perm same commute]

namespace OpenSearchConfig

variable (config : OpenSearchConfig)

/-- The text is the same in every order of the two maps, and no pool whose pods were started with
one of them is updated because of another. -/
def OrderFree : Prop :=
  forall attributes settings, config.nodeAttributes.Perm attributes ->
    config.customSettings.Perm settings ->
      let other := { config with nodeAttributes := attributes, customSettings := settings }
      other.build = config.build ∧
        forall sha clusterName spec pool, nodePoolNeedsUpdate sha
          (buildNodePoolStatefulSet clusterName spec pool { configHash := config.hash sha })
          (buildNodePoolStatefulSet clusterName spec pool { configHash := other.hash sha }) = false

/-- The text does not depend on the order of the maps if and only if any two attributes, and any
two custom settings, are written alike in both orders. -/
theorem order_free_iff : config.OrderFree <->
    Commute attributeLine config.nodeAttributes ∧ Commute settingLine config.customSettings := by
  constructor
  · intro free
    have attributes : forall others, config.nodeAttributes.Perm others ->
        writeAttributes others = writeAttributes config.nodeAttributes := by
      intro others same
      simpa [build, String.append_assoc] using (free others _ same (.refl _)).1
    have settings : forall others, config.customSettings.Perm others ->
        writeSettings others = writeSettings config.customSettings := by
      intro others same
      simpa [build] using (free _ others (.refl _) same).1
    exact ⟨writeMap_perm_iff.mp attributes, writeMap_perm_iff.mp settings⟩
  · rintro ⟨attributes, settings⟩ others custom same alike
    have texts : build { config with nodeAttributes := others, customSettings := custom } = config.build := by
      rw [build, build, writeAttributes, writeSettings, writeMap_perm_iff.mpr attributes others same,
        writeMap_perm_iff.mpr settings custom alike]
    refine ⟨texts, fun sha clusterName spec pool => ?_⟩
    rw [hash, hash, texts]
    exact nodePoolNeedsUpdate_self sha _

/-- Two attributes are written in either order. -/
theorem two_orders :
    ¬ ∃ beginning middle, OrderFree ⟨beginning, [("temp", "hot"), ("zone", "a")], middle, []⟩ := by
  rintro ⟨beginning, middle, free⟩
  have texts : writeAttributes [("zone", "a"), ("temp", "hot")] =
      writeAttributes [("temp", "hot"), ("zone", "a")] := by
    simpa [build, String.append_assoc] using (free _ [] (.swap _ _ _) (.refl _)).1
  exact absurd texts (by decide +kernel)

end OpenSearchConfig

/-! ## Lines which attributes bring along -/

/-- The line sets a key which is not an attribute: it is not blank, not a comment, and does not
begin like an attribute. -/
def setsOther (line : List Char) : Bool :=
  match line.dropWhile (· = ' ') with
  | [] | '#' :: _ => false
  | _ => !"node.attr.".toList.isPrefixOf line

def otherSettings (text : String) : List (List Char) :=
  (text.toList.splitOnP fun char => char = '\n' || char = '\r').filter setsOther

theorem otherSettings_break (first second : String) :
    otherSettings (first ++ ("\n" ++ second)) = otherSettings first ++ otherSettings second := by
  simp [otherSettings, splitOnP_append_cons]

def brought (entries : List Entry) : List (List Char) :=
  entries.flatMap fun entry => otherSettings (nodeAttr entry)

theorem otherSettings_join : otherSettings (String.join (entries.map attributeLine)) = brought entries := by
  induction entries with
  | nil => decide +kernel
  | cons entry entries ih =>
    rw [map_cons, String.join_cons, attributeLine, String.append_assoc, otherSettings_break, ih]
    rfl

theorem otherSettings_writeAttributes : otherSettings (writeAttributes entries) = brought entries := by
  by_cases empty : entries = []
  · rw [empty]
    decide +kernel
  · have silent : otherSettings "" = [] ∧ otherSettings attributesComment = [] := by decide +kernel
    rw [writeAttributes, writeMap, if_neg empty, String.append_assoc, String.append_assoc,
      ← String.empty_append (s := "\n" ++ _), otherSettings_break, otherSettings_break, silent.1, silent.2,
      otherSettings_join]
    rfl

/-- The attributes leave the other settings as they are if and only if no line which a line break
in a key or a value brings along sets another key. -/
theorem attributes_confined_iff (config : OpenSearchConfig) :
    otherSettings config.build = otherSettings { config with nodeAttributes := [] }.build <->
      ∀ entry ∈ config.nodeAttributes, otherSettings (nodeAttr entry) = [] := by
  simp only [OpenSearchConfig.build, String.append_assoc, otherSettings_break, otherSettings_writeAttributes]
  simp [brought]

/-- The second line of a value disables the security plugin. -/
theorem security_disabled :
    ¬ ∃ beginning middle,
      let config : OpenSearchConfig :=
        ⟨beginning, [("zone", "a\nplugins.security.disabled: true")], middle, []⟩
      otherSettings config.build = otherSettings { config with nodeAttributes := [] }.build := by
  rintro ⟨beginning, middle, same⟩
  have brings : brought [("zone", "a\nplugins.security.disabled: true")] ≠ [] := by decide +kernel
  simp only [OpenSearchConfig.build, String.append_assoc, otherSettings_break, otherSettings_writeAttributes]
    at same
  exact brings (by simpa [brought] using same)

end NodePools
end WazuhOperator
