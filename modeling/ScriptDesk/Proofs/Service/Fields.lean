import ScriptDesk.Proofs.Service.Encoding

/-!
# Decoding by the names of fields

What is decoded from an object depends on the fields of the value alone: neither on their order nor
on members that are no fields. Of such other members an event and a response are read in full before
anything is decoded, so all that is in them must be readable (`Tree.IsReadable`); for settings they
are only passed over, and any JSON value does.

Main statement: `decoded_by_names`. That other members of an event must be readable is needed
(`unreadable_member_refused`): a string with an unpaired surrogate and a number that the conversion
to a double makes too large are JSON values, too.
-/

namespace ScriptDesk

open Json (Entry Slot Reading Tree Value Member Literal objectOf ToldByNames Mixes SpellsWhole)

/-! ### Settings -/

namespace ScriptConfig

/-- The place of the kind. -/
def kindSlot (config : ScriptConfig) : Slot Draft ScriptConfig where
  get := Draft.kind
  set := fun draft kind => { draft with kind := some kind }
  decode := ScriptKind.decode
  content := config.kind
  entry := { name := "kind".toList, other := some "Kind".toList, value := config.kind.toJson }
  get_set := fun _ _ => rfl
  reads := fun _ _ => by cases config.kind; rfl

/-- The place of the namespaces; without them there are none. -/
def namespacesSlot (config : ScriptConfig) : Slot Draft ScriptConfig where
  get := Draft.namespaces
  set := fun draft namespaces => { draft with namespaces := some namespaces }
  optional := true
  decode := Json.decodeList Json.decodeText
  content := config.namespaces
  entry :=
    { name := "namespaces".toList
      other := some "Namespaces".toList
      value := .arr (config.namespaces.map .str)
      absent := some { config with namespaces := [] } }
  get_set := fun _ _ => rfl
  reads := fun _ hr => Json.decodeList_ofValue (fun _ _ _ _ => rfl) hr

/-- The places of settings. -/
def slots (config : ScriptConfig) : List (Slot Draft ScriptConfig) :=
  [config.kindSlot, config.namespacesSlot]

/-- The fields of settings. -/
def entries (config : ScriptConfig) : List (Entry ScriptConfig) :=
  config.slots.map Slot.entry

theorem toJson_eq_objectOf (config : ScriptConfig) : config.toJson = objectOf config.entries := rfl

theorem tells (config : ScriptConfig) : record.Tells config.slots config where
  fields := rfl
  apart := by
    have hnames : ∀ name ∈ ["kind".toList, "Kind".toList],
        name ≠ "namespaces".toList ∧ name ≠ "Namespaces".toList := by decide
    refine List.pairwise_pair.mpr ⟨?_, fun _ _ => rfl, fun _ _ => rfl, fun _ _ _ => rfl⟩
    intro name hkind hother
    have hmem : name ∈ ["kind".toList, "Kind".toList] :=
      List.mem_pair.mpr (hkind.imp Eq.symm fun h => (Option.some.inj h).symm)
    exact hother.elim (fun h => (hnames name hmem).1 h.symm)
      fun h => (hnames name hmem).2 (Option.some.inj h).symm
  blank := by
    intro slot hslot
    rcases List.mem_pair.mp hslot with rfl | rfl <;> rfl
  build := rfl
  build_eraseIdx
    | 0, _ => rfl
    | 1, _ => rfl

theorem depth_entries (config : ScriptConfig) :
    ∀ slot ∈ config.slots, slot.entry.value.depth < Reading.maxLevels := by
  have hnames : ∀ names : List Text, Value.depthOfItems (names.map .str) = 0 := by
    intro names
    induction names with
    | nil => rfl
    | cons name names ih => rw [List.map_cons, Value.depthOfItems, ih]; rfl
  intro slot hslot
  rcases List.mem_pair.mp hslot with rfl | rfl
  · exact show 0 < 127 by decide
  · show Value.depthOfItems _ + 1 < _
    rw [hnames]
    decide

end ScriptConfig

/-! ### An event with one more member -/

/-- An event with a piece of output. -/
def sampleOutput : Event where
  script := ⟨0x3f2504e04f8911d39a0c0305e82c3301⟩
  news := .output (some "x".toList)

/-- The members of the event behind another one. -/
def membersBehind (t : Tree) : List Member :=
  (some "extra".toList, t) ::
    Tree.ofMembers (Json.membersOf sampleOutput.entries)

theorem mixes_membersBehind (t : Tree) :
    Mixes sampleOutput.entries sampleOutput.entries (membersBehind t) := by
  have hforeign : ∀ entry ∈ sampleOutput.entries, ¬ entry.Answers "extra".toList := by decide
  have hperm : ([(some "extra".toList, t)] ++ Tree.ofMembers (Json.membersOf sampleOutput.entries)).Perm
      (Tree.ofMembers (Json.membersOf sampleOutput.entries) ++ [(some "extra".toList, t)]) :=
    List.perm_append_comm
  refine ⟨_, _, hperm, Json.holds_objectOf _, ?_⟩
  intro member hmember
  rw [List.mem_singleton.mp hmember]
  exact ⟨_, rfl, hforeign⟩

/-- The text of the event with another member in front whose value is spelled so. -/
def textBehind (value : Text) : Text :=
  '\x7b' :: (Json.writtenString "extra".toList ++ ':' :: (value ++
    Value.writtenMembers (Json.membersOf sampleOutput.entries)))

theorem spellsWhole_textBehind {value : Text} {t : Tree} (h : Json.Spells value t) :
    SpellsWhole (textBehind value) (.obj (membersBehind t) true) := by
  have hexact : Value.AllMembersExact (Json.membersOf sampleOutput.entries) :=
    ⟨trivial, trivial, trivial, trivial⟩
  exact (Json.spells_member hexact "extra".toList h).whole

/-! ### Main statement -/

/-- **An event, a response and settings are decoded by the names of their fields.** The fields are
those that are written. -/
theorem decoded_by_names :
    (∀ event : Event, event.news.IsSorted → event.toJson = objectOf event.entries ∧
      ToldByNames Event.decode Tree.IsReadable event.entries event) ∧
    (∀ response : Response, response.toJson = objectOf response.entries ∧
      ToldByNames Response.decode Tree.IsReadable response.entries response) ∧
    ∀ config : ScriptConfig, config.toJson = objectOf config.entries ∧
      ToldByNames ScriptConfig.decode (fun _ => True) config.entries config := by
  refine ⟨?_, ?_, ?_⟩
  · intro event hsorted
    obtain ⟨_, record, slots, htells, hentries⟩ := Event.exists_tells hsorted
    refine ⟨event.toJson_eq_objectOf, ?_⟩
    rw [hentries]
    exact htells.toldByNames
  · exact fun response => ⟨response.toJson_eq_objectOf, response.tells.toldByNames⟩
  · exact fun config => ⟨config.toJson_eq_objectOf, config.tells.toldByNames config.depth_entries⟩

theorem decoded_by_names_sample :
    sampleOutput.news.IsSorted ∧
      SpellsWhole (textBehind "[ true]".toList) (.obj (membersBehind (.arr [.bool true] true)) true) ∧
      (Tree.obj (membersBehind (.arr [.bool true] true)) true).IsReadable ∧
      Mixes sampleOutput.entries sampleOutput.entries (membersBehind (.arr [.bool true] true)) ∧
      Json.decodeWhole Event.decode (textBehind "[ true]".toList) = .ok sampleOutput := by
  have hspace : Json.IsSpace [' '] := by simp [Json.IsSpace, Json.isGap]
  have hspells : Json.Spells "[ true]".toList (.arr [.bool true] true) :=
    .array (.last hspace .true Json.isSpace_nil)
  have htext := spellsWhole_textBehind hspells
  have hreadable : (Tree.obj (membersBehind (.arr [.bool true] true)) true).IsReadable :=
    ⟨⟨⟨rfl, ⟨⟨trivial, trivial⟩, rfl⟩, Tree.allMembersSound_ofMembers _⟩, rfl⟩, by decide⟩
  have hmixes := mixes_membersBehind (.arr [.bool true] true)
  exact ⟨trivial, htext, hreadable, hmixes,
    (decoded_by_names.1 sampleOutput trivial).2.whole htext hreadable hmixes⟩

/-! ### Members that cannot be read -/

/-- A string that is an unpaired surrogate. -/
def surrogate : Text := ['"', '\\', 'u', 'd', '8', '0', '0', '"']

theorem spells_surrogate : Json.Spells surrogate (.str none) :=
  .string (.unit (show Json.hexQuad? 'd' '8' '0' '0' = some 0xd800 by decide) .nil)

/-- The exponent of a literal. -/
def Json.Literal.power (l : Literal) : Int :=
  l.exponent.elim 0 fun (minus, digits) => if minus then -digitsValue digits else digitsValue digits

/-- The number that the literal denotes is no larger than the greatest double, sign aside. -/
def Json.Literal.IsInRange (l : Literal) : Prop :=
  digitsValue (l.whole ++ l.fraction.getD []) * Nat.pow 10 l.power.toNat ≤
    (Nat.pow 2 53 - 1) * Nat.pow 2 971 *
      Nat.pow 10 ((l.fraction.getD []).length + (-l.power).toNat)

instance (l : Literal) : Decidable l.IsInRange :=
  inferInstanceAs (Decidable (_ ≤ _))

/-- A number just below the greatest double. -/
def nearGreatest : Literal :=
  ⟨false, ['1'], some "797693134862315700".toList, some (false, "308".toList)⟩

/-- How this number is spelled. -/
def nearGreatestText : Text := "1.797693134862315700e308".toList

theorem value?_nearGreatest : nearGreatest.value? = none := by decide +kernel

theorem spells_nearGreatest : Json.Spells nearGreatestText (.num nearGreatest.value?) := by
  have hliteral : Json.SpellsLiteral
      (['1'] ++ (('.' :: "797693134862315700".toList) ++ ('e' :: "308".toList))) nearGreatest :=
    .bare (by decide) (by decide) (.some (by decide)) (.bare (.inl rfl) (by decide))
  exact .number hliteral

/-- **An event is refused for a member that is no field**, if the member is a JSON value that has no
value here: a string with an unpaired surrogate, or a number in the range of doubles that is too
large once its digits are multiplied by the power of ten. -/
theorem unreadable_member_refused :
    (SpellsWhole (textBehind surrogate) (.obj (membersBehind (.str none)) true) ∧
      Mixes sampleOutput.entries sampleOutput.entries (membersBehind (.str none)) ∧
      (Tree.obj (membersBehind (.str none)) true).depth < 128 ∧
      Json.decodeWhole Event.decode (textBehind surrogate) = .error .syntaxError) ∧
    nearGreatest.IsInRange ∧
      SpellsWhole (textBehind nearGreatestText)
        (.obj (membersBehind (.num nearGreatest.value?)) true) ∧
      Mixes sampleOutput.entries sampleOutput.entries (membersBehind (.num nearGreatest.value?)) ∧
      (Tree.obj (membersBehind (.num nearGreatest.value?)) true).depth < 128 ∧
      Json.decodeWhole Event.decode (textBehind nearGreatestText) = .error .syntaxError := by
  have hsurrogate := spellsWhole_textBehind spells_surrogate
  have hnumber := spellsWhole_textBehind spells_nearGreatest
  refine ⟨⟨hsurrogate, mixes_membersBehind _, ?_, ?_⟩, ?_, hnumber, mixes_membersBehind _, ?_, ?_⟩
  · decide
  · rw [Json.decodeWhole_of_spells _ hsurrogate]
    rfl
  · decide +kernel
  · exact show 1 < 128 by decide
  · rw [Json.decodeWhole_of_spells _ hnumber, value?_nearGreatest]
    rfl

end ScriptDesk
