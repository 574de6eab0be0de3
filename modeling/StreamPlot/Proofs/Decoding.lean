import Mathlib.Logic.Relation
import StreamPlot.Proofs.Markup.Value
import StreamPlot.Proofs.Settings

/-!
# What the entries of a settings file say

A settings file is read entry by entry, and each entry adds to what is known. What comes of it
can be told setting by setting instead: `Gives` looks at the values for one key alone, and a
file says exactly what its entries give to each of the nine settings. Nothing of this depends
on the order of the entries or on entries with other keys.
-/

namespace StreamPlot

open Markup

/-! ## Settings one by one -/

/-- What entries give to a key, in order. -/
def valuesOf (key : String) (entries : List (String × Node)) : List Node :=
  entries.filterMap fun entry => if entry.1 = key then some entry.2 else none

/-- Entries give a value to a setting: the one that is written for its key, or the value that
it has without being given one. A key that is there twice gives nothing. -/
def Gives {α : Type} (read : Node → Option α) (key : String) (entries : List (String × Node))
    (fallback value : α) : Prop :=
  match valuesOf key entries with
  | [] => value = fallback
  | [node] => read node = some value
  | _ => False

/-- What is known of a setting behind one more value for it. -/
def learn {α : Type} (read : Node → Option α) (known : Option α) (node : Node) :
    Option (Option α) :=
  if known.isSome then none else (read node).map some

/-- What is known of a setting behind some entries, by the values for its key. -/
def known? {α : Type} (read : Node → Option α) (key : String) (entries : List (String × Node))
    (before : Option α) : Option (Option α) :=
  (valuesOf key entries).foldlM (learn read) before

section

variable {α : Type} {read : Node → Option α} {key other : String}
  {entries first second : List (String × Node)} {fallback value : α}

theorem valuesOf_cons_self (node : Node) (entries : List (String × Node)) :
    valuesOf key ((key, node) :: entries) = node :: valuesOf key entries := by
  simp [valuesOf]

theorem valuesOf_cons_of_ne (h : other ≠ key) (node : Node) (entries : List (String × Node)) :
    valuesOf key ((other, node) :: entries) = valuesOf key entries := by
  simp [valuesOf, h]

theorem known?_cons_self (node : Node) (entries : List (String × Node)) (before : Option α) :
    known? read key ((key, node) :: entries) before =
      (learn read before node).bind (known? read key entries) := by
  rw [known?, valuesOf_cons_self, List.foldlM_cons]
  rfl

theorem known?_cons_of_ne (h : other ≠ key) (node : Node) (entries : List (String × Node))
    (before : Option α) :
    known? read key ((other, node) :: entries) before = known? read key entries before := by
  rw [known?, known?, valuesOf_cons_of_ne h]

/-- What values come to, if there is nothing to be known before them. -/
theorem gives_iff : Gives read key entries fallback value ↔
    ∃ known, known? read key entries none = some known ∧ known.getD fallback = value := by
  unfold Gives known?
  match valuesOf key entries with
  | [] => simp [eq_comm]
  | [node] => cases hread : read node <;> simp [learn, hread]
  | first :: second :: rest => cases hread : read first <;> simp [learn, hread]

theorem gives_congr (h : valuesOf key first = valuesOf key second) :
    Gives read key first fallback value ↔ Gives read key second fallback value := by
  rw [Gives, Gives, h]

/-- The order of the entries does not matter. -/
theorem gives_of_perm (h : first.Perm second) :
    Gives read key first fallback value ↔ Gives read key second fallback value := by
  have hvalues : (valuesOf key first).Perm (valuesOf key second) := h.filterMap _
  unfold Gives
  match hfirst : valuesOf key first, hsecond : valuesOf key second with
  | [], nodes =>
      rw [hfirst, hsecond] at hvalues
      rw [hvalues.nil_eq]
  | [node], nodes =>
      rw [hfirst, hsecond] at hvalues
      rw [List.singleton_perm.mp hvalues]
  | first :: second :: rest, nodes =>
      rw [hfirst, hsecond] at hvalues
      match nodes, hvalues.length_eq with
      | _ :: _ :: _, _ => rfl

end

/-- The value of an unknown key is passed over, whatever it is. -/
theorem passValue_eq {value : List LocatedPiece} {node : Node}
    (h : value.map LocatedPiece.piece = node.pieces) (document : Document) :
    passValue document value = .ok () :=
  if_pos (node.whole_pieces.holdsNode_eq value h)

/-- A value is refused if the setting is known already, and else it is read. -/
theorem map_learn {α β σ : Type} {read : Node → Option α} {node : Node}
    {reading : Except ReadError β} (make : β → α) (h : reading.toOption.map make = read node)
    (known : Option α) (key : String) (store : Option α → σ) :
    (learn read known node).map store = (do
      refuseSecond known key
      let value ← reading
      return store (some (make value)) : Except ReadError σ).toOption := by
  rw [learn, ← h]
  cases known with
  | none => cases reading <;> rfl
  | some value => rfl

/-! ## Entry by entry -/

/-- What is known behind some entries, if each adds to it. -/
def learnAll {σ : Type} (add : σ → String → Node → Option σ) (known : σ)
    (entries : List (String × Node)) : Option σ :=
  entries.foldlM (fun known entry => add known entry.1 entry.2) known

/-- An entry adds the same wherever it stands: it is told by its key and by the tree of its
value. -/
def AddsAnywhere {σ : Type} (add? : σ → String → Node → Option σ)
    (add : σ → (key : String) → KeyPath → List LocatedPiece → Except ReadError σ)
    (key : String) (node : Node) : Prop :=
  ∀ known path value, value.map LocatedPiece.piece = node.pieces →
    add? known key node = (add known key path value).toOption

section

variable {σ : Type} {add? : σ → String → Node → Option σ}
  {add : σ → (key : String) → KeyPath → List LocatedPiece → Except ReadError σ}
  {entries : List (String × Node)}

theorem learnAll_eq_foldlM {found : List Entry} {pairs : List (Node × Node)}
    (hfound : List.Forall₂ Entry.Spells found pairs)
    (hentries : pairs.mapM (fun (key, value) => key.text?.map (·, value)) = some entries)
    (hadd : ∀ key node, (key, node) ∈ entries → AddsAnywhere add? add key node)
    (document : Document) (path : KeyPath) (known : σ) :
    learnAll add? known entries = (found.foldlM (fun known (entry : Entry) => do
      let key ← readNode document path entry.key (readText "field identifier")
      add known key (path.child entry.key) entry.value) known).toOption := by
  induction hfound generalizing entries known with
  | nil =>
      obtain rfl : [] = entries := Option.some.inj hentries
      rfl
  | @cons entry pair found pairs hentry hfound ih =>
      obtain ⟨key, value⟩ := pair
      rw [List.mapM_cons] at hentries
      obtain ⟨named, hnamed, hrest⟩ := Option.bind_eq_some_iff.mp hentries
      obtain ⟨text, htext, rfl⟩ := Option.map_eq_some_iff.mp hnamed
      obtain ⟨others, hothers, hcons⟩ := Option.bind_eq_some_iff.mp hrest
      obtain rfl : (text, value) :: others = entries := Option.some.inj hcons
      have hkey : (readNode document path entry.key (readText "field identifier")).toOption =
          some text := by
        rw [Node.toOption_readNode hentry.key, Node.toOption_readText, htext]
      have hhere := hadd text value (List.mem_cons_self ..)
      rw [List.foldlM_cons, toOption_bind, toOption_bind, hkey, Option.bind_some,
        ← hhere known _ _ hentry.value]
      refine congrArg _ (funext fun known => ?_)
      exact ih hothers (fun key node hmem => hadd key node (List.mem_cons_of_mem _ hmem)) known

/-- A mapping is read as its entries are, one after the other. -/
theorem toOption_readMapping {located : List LocatedPiece} {node : Node}
    (h : located.map LocatedPiece.piece = node.pieces) (hentries : node.entries? = some entries)
    (hadd : ∀ key node, (key, node) ∈ entries → AddsAnywhere add? add key node)
    (document : Document) (path : KeyPath) (expected : String) (known : σ) :
    (readMapping document path expected add known located).toOption =
      learnAll add? known entries := by
  cases node with
  | scalar tag text style => cases hentries
  | sequence tag items => cases hentries
  | mapping tag pairs =>
      obtain ⟨⟨piece, start⟩, middle, stop, rfl, hpiece, hmiddle, hstop⟩ := exists_enclosed h
      obtain rfl : piece = .mappingStart tag := hpiece
      obtain ⟨found, hfound, hspells⟩ := exists_entries pairs hmiddle hstop []
      have hhere : readMapping document path expected add known
          (⟨.mappingStart tag, start⟩ :: (middle ++ [stop])) =
            (readEntries document path add known (middle ++ [stop])).mapError
              (·.located path start) := rfl
      rw [hhere, toOption_mapError, readEntries, hfound, toOption_bind,
        ← learnAll_eq_foldlM hspells hentries hadd document path known]
      cases learnAll add? known entries <;> rfl

end

namespace DisplayFields

/-- What one more entry adds to what is known, told by its key and its value alone. -/
def add? (fields : DisplayFields) (key : String) (node : Node) : Option DisplayFields :=
  match key with
  | "tick_ms" => (learn Node.long? fields.tickMs node).map fun tickMs => { fields with tickMs }
  | "style" =>
      (learn (Node.variant? PlotStyle.name PlotStyle.all) fields.style node).map fun style =>
        { fields with style }
  | "marker" =>
      (learn (Node.variant? MarkerKind.name MarkerKind.all) fields.marker node).map fun marker =>
        { fields with marker }
  | "recent_records" =>
      (learn Node.long? fields.recentRecords node).map fun recentRecords =>
        { fields with recentRecords }
  | "title" => (learn Node.text? fields.title node).map fun title => { fields with title }
  | "color" => (learn Node.text? fields.color node).map fun color => { fields with color }
  | _ => some fields

/-- Every setting goes by the values for its own key. -/
theorem learnAll_iff (fields final : DisplayFields) (entries : List (String × Node)) :
    learnAll add? fields entries = some final ↔
      known? Node.long? "tick_ms" entries fields.tickMs = some final.tickMs ∧
      known? (Node.variant? PlotStyle.name PlotStyle.all) "style" entries fields.style =
        some final.style ∧
      known? (Node.variant? MarkerKind.name MarkerKind.all) "marker" entries fields.marker =
        some final.marker ∧
      known? Node.long? "recent_records" entries fields.recentRecords =
        some final.recentRecords ∧
      known? Node.text? "title" entries fields.title = some final.title ∧
      known? Node.text? "color" entries fields.color = some final.color := by
  induction entries generalizing fields with
  | nil =>
      cases fields
      cases final
      simp [learnAll, known?, valuesOf]
  | cons entry entries ih =>
      obtain ⟨key, node⟩ := entry
      have hcons : learnAll add? fields ((key, node) :: entries) =
          (fields.add? key node).bind fun known => learnAll add? known entries := rfl
      rw [hcons]
      -- One case for each key: its own setting learns the value, and all others stay.
      fun_cases add? fields key node with
      | case1 =>
          cases hlearn : learn Node.long? fields.tickMs node <;>
            simp [hlearn, ih, known?_cons_self, known?_cons_of_ne]
      | case2 =>
          cases hlearn : learn (Node.variant? PlotStyle.name PlotStyle.all) fields.style node <;>
            simp [hlearn, ih, known?_cons_self, known?_cons_of_ne]
      | case3 =>
          cases hlearn : learn (Node.variant? MarkerKind.name MarkerKind.all) fields.marker node <;>
            simp [hlearn, ih, known?_cons_self, known?_cons_of_ne]
      | case4 =>
          cases hlearn : learn Node.long? fields.recentRecords node <;>
            simp [hlearn, ih, known?_cons_self, known?_cons_of_ne]
      | case5 =>
          cases hlearn : learn Node.text? fields.title node <;>
            simp [hlearn, ih, known?_cons_self, known?_cons_of_ne]
      | case6 =>
          cases hlearn : learn Node.text? fields.color node <;>
            simp [hlearn, ih, known?_cons_self, known?_cons_of_ne]
      | case7 _ htick hstyle hmarker hrecent htitle hcolor =>
          simp [ih, known?_cons_of_ne htick, known?_cons_of_ne hstyle, known?_cons_of_ne hmarker,
            known?_cons_of_ne hrecent, known?_cons_of_ne htitle, known?_cons_of_ne hcolor]

theorem addsAnywhere (document : Document) (key : String) (node : Node) :
    AddsAnywhere add? (add document) key node := by
  intro fields path value h
  fun_cases add? fields key node with
  | case1 | case4 =>
      refine map_learn UInt64.ofNat ?_ _ _ _
      rw [Node.toOption_readNode h, Node.toOption_readWord, Node.long?]
  | case2 | case3 =>
      refine map_learn id ?_ _ _ _
      rw [Node.toOption_readVariant h, Option.map_id_apply]
  | case5 | case6 =>
      refine map_learn id ?_ _ _ _
      rw [Node.toOption_readNode h, Node.toOption_readText, Option.map_id_apply]
  | case7 _ htick hstyle hmarker hrecent htitle hcolor =>
      rw [add, passValue_eq h]
      · rfl
      all_goals assumption

end DisplayFields

/-- Entries say what the settings of the picture are. -/
structure DisplaySettings.SaidBy (entries : List (String × Node)) (display : DisplaySettings) :
    Prop where
  tickMs : Gives Node.long? "tick_ms" entries Settings.default.display.tickMs display.tickMs
  style : Gives (Node.variant? PlotStyle.name PlotStyle.all) "style" entries
    Settings.default.display.style display.style
  marker : Gives (Node.variant? MarkerKind.name MarkerKind.all) "marker" entries
    Settings.default.display.marker display.marker
  recentRecords : Gives Node.long? "recent_records" entries
    Settings.default.display.recentRecords display.recentRecords
  title : Gives Node.text? "title" entries Settings.default.display.title display.title
  color : Gives Node.text? "color" entries Settings.default.display.color display.color

/-- The settings of the picture that a node gives. -/
def Markup.Node.display? (node : Node) : Option DisplaySettings :=
  node.entries?.bind fun entries =>
    (learnAll DisplayFields.add? {} entries).map DisplayFields.complete

theorem DisplaySettings.saidBy_iff {entries : List (String × Node)} {display : DisplaySettings} :
    display.SaidBy entries ↔
      ∃ fields, learnAll DisplayFields.add? {} entries = some fields ∧
        fields.complete = display := by
  simp only [DisplayFields.learnAll_iff]
  constructor
  · -- The fields are put together from what is known of each setting.
    obtain ⟨_, _, _, _, _, _⟩ := display
    intro h
    obtain ⟨tickMs, htick, rfl⟩ := gives_iff.mp h.tickMs
    obtain ⟨style, hstyle, rfl⟩ := gives_iff.mp h.style
    obtain ⟨marker, hmarker, rfl⟩ := gives_iff.mp h.marker
    obtain ⟨recentRecords, hrecent, rfl⟩ := gives_iff.mp h.recentRecords
    obtain ⟨title, htitle, rfl⟩ := gives_iff.mp h.title
    obtain ⟨color, hcolor, rfl⟩ := gives_iff.mp h.color
    exact ⟨⟨tickMs, style, marker, recentRecords, title, color⟩,
      ⟨htick, hstyle, hmarker, hrecent, htitle, hcolor⟩, rfl⟩
  · rintro ⟨fields, ⟨htick, hstyle, hmarker, hrecent, htitle, hcolor⟩, rfl⟩
    exact ⟨gives_iff.mpr ⟨_, htick, rfl⟩, gives_iff.mpr ⟨_, hstyle, rfl⟩,
      gives_iff.mpr ⟨_, hmarker, rfl⟩, gives_iff.mpr ⟨_, hrecent, rfl⟩,
      gives_iff.mpr ⟨_, htitle, rfl⟩, gives_iff.mpr ⟨_, hcolor, rfl⟩⟩

namespace SettingsFields

/-- What one more entry adds to what is known, told by its key and its value alone. -/
def add? (fields : SettingsFields) (key : String) (node : Node) : Option SettingsFields :=
  match key with
  | "version" => (learn Node.short? fields.version node).map fun version => { fields with version }
  | "display" =>
      (learn Node.display? fields.display node).map fun display => { fields with display }
  | "echo" => (learn Node.truth? fields.echo node).map fun echo => { fields with echo }
  | "vim_keys" => (learn Node.truth? fields.vimKeys node).map fun vimKeys => { fields with vimKeys }
  | _ => some fields

theorem learnAll_iff (fields final : SettingsFields) (entries : List (String × Node)) :
    learnAll add? fields entries = some final ↔
      known? Node.short? "version" entries fields.version = some final.version ∧
      known? Node.display? "display" entries fields.display = some final.display ∧
      known? Node.truth? "echo" entries fields.echo = some final.echo ∧
      known? Node.truth? "vim_keys" entries fields.vimKeys = some final.vimKeys := by
  induction entries generalizing fields with
  | nil =>
      cases fields
      cases final
      simp [learnAll, known?, valuesOf]
  | cons entry entries ih =>
      obtain ⟨key, node⟩ := entry
      have hcons : learnAll add? fields ((key, node) :: entries) =
          (fields.add? key node).bind fun known => learnAll add? known entries := rfl
      rw [hcons]
      fun_cases add? fields key node with
      | case1 =>
          cases hlearn : learn Node.short? fields.version node <;>
            simp [hlearn, ih, known?_cons_self, known?_cons_of_ne]
      | case2 =>
          cases hlearn : learn Node.display? fields.display node <;>
            simp [hlearn, ih, known?_cons_self, known?_cons_of_ne]
      | case3 =>
          cases hlearn : learn Node.truth? fields.echo node <;>
            simp [hlearn, ih, known?_cons_self, known?_cons_of_ne]
      | case4 =>
          cases hlearn : learn Node.truth? fields.vimKeys node <;>
            simp [hlearn, ih, known?_cons_self, known?_cons_of_ne]
      | case5 _ hversion hdisplay hecho hvim =>
          simp [ih, known?_cons_of_ne hversion, known?_cons_of_ne hdisplay,
            known?_cons_of_ne hecho, known?_cons_of_ne hvim]

theorem addsAnywhere {key : String} {node : Node}
    (hdisplay : key = "display" → node.entries?.isSome = true) (document : Document) :
    AddsAnywhere add? (add document) key node := by
  intro fields path value h
  fun_cases add? fields key node with
  | case1 =>
      refine map_learn UInt32.ofNat ?_ _ _ _
      rw [Node.toOption_readNode h, Node.toOption_readShortWord, Node.short?]
  | case2 =>
      obtain ⟨entries, hentries⟩ := Option.isSome_iff_exists.mp (hdisplay rfl)
      have hread := toOption_readMapping h hentries
        (fun key node _ => DisplayFields.addsAnywhere document key node)
        document path "struct DisplayConfig" {}
      refine map_learn DisplayFields.complete ?_ _ _ _
      rw [hread, Node.display?, hentries]
      rfl
  | case3 | case4 =>
      refine map_learn id ?_ _ _ _
      rw [Node.toOption_readNode h, Node.toOption_readBoolean, Option.map_id_apply]
  | case5 _ hversion hdisplay hecho hvim =>
      rw [add, passValue_eq h]
      · rfl
      all_goals assumption

end SettingsFields

/-- Entries say what the settings are. What they say of the picture is what the entries of the
value for its key say. -/
structure Settings.SaidBy (entries : List (String × Node)) (settings : Settings) : Prop where
  version : Gives Node.short? "version" entries Settings.default.version settings.version
  display : ∃ inner, Gives Node.entries? "display" entries [] inner ∧ settings.display.SaidBy inner
  echo : Gives Node.truth? "echo" entries Settings.default.echo settings.echo
  vimKeys : Gives Node.truth? "vim_keys" entries Settings.default.vimKeys settings.vimKeys

theorem DisplaySettings.saidBy_nil_iff {display : DisplaySettings} :
    display.SaidBy [] ↔ display = Settings.default.display := by
  rw [saidBy_iff]
  constructor
  · rintro ⟨fields, hfields, rfl⟩
    obtain rfl : {} = fields := Option.some.inj hfields
    rfl
  · rintro rfl
    exact ⟨{}, rfl, rfl⟩

theorem gives_display?_iff {entries : List (String × Node)} {display : DisplaySettings} :
    Gives Node.display? "display" entries Settings.default.display display ↔
      ∃ inner, Gives Node.entries? "display" entries [] inner ∧ display.SaidBy inner := by
  unfold Gives
  split
  next => simp [DisplaySettings.saidBy_nil_iff]
  next node =>
    simp only [Node.display?, DisplaySettings.saidBy_iff, Option.bind_eq_some_iff,
      Option.map_eq_some_iff]
  next => simp

theorem Settings.saidBy_iff {entries : List (String × Node)} {settings : Settings} :
    settings.SaidBy entries ↔
      ∃ fields, learnAll SettingsFields.add? {} entries = some fields ∧
        fields.complete = settings := by
  simp only [SettingsFields.learnAll_iff]
  constructor
  · obtain ⟨_, _, _, _⟩ := settings
    intro h
    obtain ⟨version, hversion, rfl⟩ := gives_iff.mp h.version
    obtain ⟨display, hdisplay, rfl⟩ := gives_iff.mp (gives_display?_iff.mpr h.display)
    obtain ⟨echo, hecho, rfl⟩ := gives_iff.mp h.echo
    obtain ⟨vimKeys, hvim, rfl⟩ := gives_iff.mp h.vimKeys
    exact ⟨⟨version, display, echo, vimKeys⟩, ⟨hversion, hdisplay, hecho, hvim⟩, rfl⟩
  · rintro ⟨fields, ⟨hversion, hdisplay, hecho, hvim⟩, rfl⟩
    exact ⟨gives_iff.mpr ⟨_, hversion, rfl⟩,
      gives_display?_iff.mp (gives_iff.mpr ⟨_, hdisplay, rfl⟩),
      gives_iff.mpr ⟨_, hecho, rfl⟩, gives_iff.mpr ⟨_, hvim, rfl⟩⟩

/-! ## Whole documents -/

/-- A document is one mapping with scalar keys, and so is the value for the settings of the
picture, if it is there. -/
structure Markup.Document.Holds (document : Document) (entries : List (String × Node)) :
    Prop where
  exists_node : ∃ node : Node, document.pieces.map LocatedPiece.piece = node.pieces ∧
    node.entries? = some entries
  display : ∀ node, ("display", node) ∈ entries → node.entries?.isSome = true
  ending : document.ending = .last

namespace Settings

theorem toOption_ofDocument {document : Document} {entries : List (String × Node)}
    (h : document.Holds entries) :
    (ofDocument document).toOption =
      (learnAll SettingsFields.add? {} entries).map SettingsFields.complete := by
  obtain ⟨node, hpieces, hentries⟩ := h.exists_node
  have hadd : ∀ key node, (key, node) ∈ entries →
      AddsAnywhere SettingsFields.add? (SettingsFields.add document) key node := by
    rintro key node hmem
    exact SettingsFields.addsAnywhere (fun hkey => h.display node (hkey ▸ hmem)) document
  rw [ofDocument, toOption_bind, toOption_readMapping hpieces hentries hadd, h.ending]
  cases learnAll SettingsFields.add? {} entries <;> rfl

theorem parse_eq_ok_iff {text : String} {entries : List (String × Node)}
    (h : (Document.ofText text).Holds entries) {settings : Settings} :
    parse text = .ok settings ↔ settings.SaidBy entries ∧ settings.Usable := by
  have hread : (ofDocument (.ofText text)).toOption = some settings ↔
      settings.SaidBy entries := by
    rw [toOption_ofDocument h, Option.map_eq_some_iff, saidBy_iff]
  constructor
  · intro hparse
    cases hdecoded : ofDocument (.ofText text) with
    | error mistake =>
        rw [parse, hdecoded] at hparse
        cases hparse
    | ok written =>
        rw [parse_of_decoded hdecoded] at hparse
        obtain ⟨rfl, husable⟩ := of_validated hparse
        exact ⟨hread.mp (congrArg Except.toOption hdecoded), husable⟩
  · rintro ⟨hsaid, husable⟩
    rw [parse_of_decoded (eq_ok_of_toOption (hread.mpr hsaid)), validated_of_usable husable]

end Settings

/-! ## Edits without effect -/

def settingKeys : List String := ["version", "display", "echo", "vim_keys"]

def displayKeys : List String := ["tick_ms", "style", "marker", "recent_records", "title", "color"]

/-- An edit of entries that changes nothing of what they say: another order, or one entry more
whose key is not known. -/
inductive Edit (known : List String) :
    List (String × Node) → List (String × Node) → Prop where
  | order {first second : List (String × Node)} (h : first.Perm second) : Edit known first second
  | unknown {key : String} (h : key ∉ known) (node : Node) (entries : List (String × Node)) :
      Edit known entries ((key, node) :: entries)

/-- Such an edit of the entries of a settings file, at either level. -/
inductive SettingsEdit : List (String × Node) → List (String × Node) → Prop where
  | outside {first second : List (String × Node)} (h : Edit settingKeys first second) :
      SettingsEdit first second
  | inside {node edited : Node} {inner changed : List (String × Node)}
      (hinner : node.entries? = some inner) (hchanged : edited.entries? = some changed)
      (h : Relation.EqvGen (Edit displayKeys) inner changed) (entries : List (String × Node)) :
      SettingsEdit (("display", node) :: entries) (("display", edited) :: entries)

section

variable {α : Type} {read : Node → Option α} {key : String} {known : List String}
  {first second : List (String × Node)} {fallback value : α}

theorem gives_cons_self {node : Node} {entries : List (String × Node)} :
    Gives read key ((key, node) :: entries) fallback value ↔
      valuesOf key entries = [] ∧ read node = some value := by
  rw [Gives, valuesOf_cons_self]
  cases valuesOf key entries <;> simp

theorem gives_of_absent (h : valuesOf key first = []) :
    Gives read key first fallback fallback := by
  rw [Gives, h]

theorem gives_of_mem {node : Node} (h : Gives read key first fallback value)
    (hmem : (key, node) ∈ first) : read node = some value := by
  have hvalue : node ∈ valuesOf key first := List.mem_filterMap.mpr ⟨_, hmem, if_pos rfl⟩
  unfold Gives at h
  split at h
  next hvalues =>
    rw [hvalues] at hvalue
    cases hvalue
  next only hvalues =>
    rw [hvalues, List.mem_singleton] at hvalue
    rwa [hvalue]
  next => exact h.elim

theorem gives_unique {other : α} (h : Gives read key first fallback value)
    (hother : Gives read key first fallback other) : value = other := by
  unfold Gives at h hother
  split at h
  next hvalues =>
    rw [hvalues] at hother
    exact h.trans hother.symm
  next node hvalues =>
    rw [hvalues] at hother
    exact Option.some.inj (h.symm.trans hother)
  next => exact h.elim

theorem not_gives_of_two (h : 2 ≤ (valuesOf key first).length) :
    ¬ Gives read key first fallback value := by
  unfold Gives
  match hvalues : valuesOf key first with
  | [] => simp [hvalues] at h
  | [node] => simp [hvalues] at h
  | _ :: _ :: _ => exact id

end

/-- Entries give the same to some keys, whatever their values are read as. -/
def Agree (keys : List String) (first second : List (String × Node)) : Prop :=
  ∀ key ∈ keys, ∀ (α : Type) (read : Node → Option α) (fallback value : α),
    Gives read key first fallback value ↔ Gives read key second fallback value

theorem Agree.of_edit {known : List String} {first second : List (String × Node)}
    (h : Edit known first second) : Agree known first second := by
  intro key hkey α read fallback value
  cases h with
  | order h => exact gives_of_perm h
  | @unknown other h node =>
      have hne : other ≠ key := by
        rintro rfl
        exact h hkey
      exact gives_congr (valuesOf_cons_of_ne hne node first).symm

theorem Agree.of_edits {known : List String} {first second : List (String × Node)}
    (h : Relation.EqvGen (Edit known) first second) : Agree known first second := by
  induction h with
  | rel first second h => exact .of_edit h
  | refl entries => exact fun _ _ _ _ _ _ => Iff.rfl
  | symm first second _ ih =>
      exact fun key hkey α read fallback value => (ih key hkey α read fallback value).symm
  | trans first middle second _ _ ih ih' =>
      exact fun key hkey α read fallback value =>
        (ih key hkey α read fallback value).trans (ih' key hkey α read fallback value)

theorem DisplaySettings.SaidBy.of_agree {display : DisplaySettings}
    {first second : List (String × Node)} (hsaid : display.SaidBy first)
    (h : Agree displayKeys first second) : display.SaidBy second where
  tickMs := (h "tick_ms" (by decide) _ _ _ _).mp hsaid.tickMs
  style := (h "style" (by decide) _ _ _ _).mp hsaid.style
  marker := (h "marker" (by decide) _ _ _ _).mp hsaid.marker
  recentRecords := (h "recent_records" (by decide) _ _ _ _).mp hsaid.recentRecords
  title := (h "title" (by decide) _ _ _ _).mp hsaid.title
  color := (h "color" (by decide) _ _ _ _).mp hsaid.color

namespace Settings.SaidBy

variable {settings : Settings} {first second entries : List (String × Node)}

theorem of_agree (hsaid : settings.SaidBy first) (h : Agree settingKeys first second) :
    settings.SaidBy second where
  version := (h "version" (by decide) _ _ _ _).mp hsaid.version
  display := by
    obtain ⟨inner, hinner, hdisplay⟩ := hsaid.display
    exact ⟨inner, (h "display" (by decide) _ _ _ _).mp hinner, hdisplay⟩
  echo := (h "echo" (by decide) _ _ _ _).mp hsaid.echo
  vimKeys := (h "vim_keys" (by decide) _ _ _ _).mp hsaid.vimKeys

theorem inside {node edited : Node} {inner changed : List (String × Node)}
    (hsaid : settings.SaidBy (("display", node) :: entries))
    (hinner : node.entries? = some inner) (hchanged : edited.entries? = some changed)
    (h : Agree displayKeys inner changed) : settings.SaidBy (("display", edited) :: entries) := by
  have hother : ∀ key, "display" ≠ key →
      valuesOf key (("display", node) :: entries) =
        valuesOf key (("display", edited) :: entries) := by
    intro key hne
    rw [valuesOf_cons_of_ne hne, valuesOf_cons_of_ne hne]
  obtain ⟨found, hfound, hdisplay⟩ := hsaid.display
  obtain ⟨honce, hread⟩ := gives_cons_self.mp hfound
  obtain rfl : inner = found := Option.some.inj (hinner.symm.trans hread)
  exact {
    version := (gives_congr (hother "version" (by decide))).mp hsaid.version
    display := ⟨changed, gives_cons_self.mpr ⟨honce, hchanged⟩, hdisplay.of_agree h⟩
    echo := (gives_congr (hother "echo" (by decide))).mp hsaid.echo
    vimKeys := (gives_congr (hother "vim_keys" (by decide))).mp hsaid.vimKeys }

end Settings.SaidBy

/-- An edit without effect leaves what the entries say. -/
theorem Settings.saidBy_of_edits {first second : List (String × Node)}
    (h : Relation.EqvGen SettingsEdit first second) (settings : Settings) :
    settings.SaidBy first ↔ settings.SaidBy second := by
  induction h with
  | rel first second h =>
      cases h with
      | outside h =>
          have hagree := Agree.of_edit h
          have hback : Agree settingKeys second first :=
            .of_edits (.symm _ _ (.rel _ _ h))
          exact ⟨fun hsaid => hsaid.of_agree hagree, fun hsaid => hsaid.of_agree hback⟩
      | inside hinner hchanged h entries =>
          exact ⟨fun hsaid => hsaid.inside hinner hchanged (.of_edits h),
            fun hsaid => hsaid.inside hchanged hinner (.of_edits (.symm _ _ h))⟩
  | refl entries => rfl
  | symm first second _ ih => exact ih.symm
  | trans first middle second _ _ ih ih' => exact ih.trans ih'

/-! ## Defaults -/

/-- A document without any content. -/
def Markup.Document.IsBlank (document : Document) : Prop :=
  document.pieces.map LocatedPiece.piece = [.void] ∧ document.ending = .last

theorem Settings.parse_of_isBlank {text : String} (h : (Document.ofText text).IsBlank) :
    Settings.parse text = .ok .default := by
  obtain ⟨hpieces, hending⟩ := h
  obtain ⟨⟨piece, start⟩, hlist, rfl⟩ := List.map_eq_singleton_iff.mp hpieces
  have hread : ofDocument (.ofText text) = .ok .default := by
    rw [ofDocument, hlist, hending]
    rfl
  rw [parse_of_decoded hread, validated_of_usable usable_default]

theorem Settings.SaidBy.display_eq {settings : Settings} {entries : List (String × Node)}
    (hsaid : settings.SaidBy entries) (h : Gives Node.entries? "display" entries [] []) :
    settings.display = Settings.default.display := by
  obtain ⟨inner, hinner, hdisplay⟩ := hsaid.display
  obtain rfl : inner = [] := gives_unique hinner h
  exact DisplaySettings.saidBy_nil_iff.mp hdisplay

theorem Settings.saidBy_default {entries : List (String × Node)}
    (hplain : ∀ key ∈ ["version", "echo", "vim_keys"], valuesOf key entries = [])
    (h : Gives Node.entries? "display" entries [] []) : Settings.default.SaidBy entries where
  version := gives_of_absent (hplain "version" (by decide))
  display := ⟨[], h, DisplaySettings.saidBy_nil_iff.mpr rfl⟩
  echo := gives_of_absent (hplain "echo" (by decide))
  vimKeys := gives_of_absent (hplain "vim_keys" (by decide))

theorem Settings.not_saidBy_of_two {settings : Settings} {entries : List (String × Node)}
    {key : String} (hkey : key ∈ settingKeys) (h : 2 ≤ (valuesOf key entries).length) :
    ¬ settings.SaidBy entries := by
  intro hsaid
  simp only [settingKeys, List.mem_cons, List.not_mem_nil, or_false] at hkey
  rcases hkey with rfl | rfl | rfl | rfl
  · exact not_gives_of_two h hsaid.version
  · obtain ⟨inner, hinner, -⟩ := hsaid.display
    exact not_gives_of_two h hinner
  · exact not_gives_of_two h hsaid.echo
  · exact not_gives_of_two h hsaid.vimKeys

theorem DisplaySettings.not_saidBy_of_two {display : DisplaySettings}
    {entries : List (String × Node)} {key : String} (hkey : key ∈ displayKeys)
    (h : 2 ≤ (valuesOf key entries).length) : ¬ display.SaidBy entries := by
  intro hsaid
  simp only [displayKeys, List.mem_cons, List.not_mem_nil, or_false] at hkey
  rcases hkey with rfl | rfl | rfl | rfl | rfl | rfl
  · exact not_gives_of_two h hsaid.tickMs
  · exact not_gives_of_two h hsaid.style
  · exact not_gives_of_two h hsaid.marker
  · exact not_gives_of_two h hsaid.recentRecords
  · exact not_gives_of_two h hsaid.title
  · exact not_gives_of_two h hsaid.color

/-- Settings files are read by their keys. Two files that differ by the order of their entries
and by entries with unknown keys, at either level, are both refused or give the same settings.
A file gives exactly the settings that its entries say, if they can be used: to each of the
nine settings the value that is written for it, whatever is written for the others, and its
default if there is none. A known key that is there twice is refused. No settings of the
picture and empty ones give the default ones, and so do a file without content and one that
gives nothing else. A number in decimal, a truth value, a name and a text are read as what they
say. -/
theorem settings_are_read_by_key {text other blank : String}
    {entries others : List (String × Node)} (h : (Document.ofText text).Holds entries)
    (hother : (Document.ofText other).Holds others) (hblank : (Document.ofText blank).IsBlank) :
    (Relation.EqvGen SettingsEdit entries others →
      (Settings.parse text).toOption = (Settings.parse other).toOption) ∧
    (∀ settings, Settings.parse text = .ok settings ↔
      settings.SaidBy entries ∧ settings.Usable) ∧
    (∀ key ∈ settingKeys, 2 ≤ (valuesOf key entries).length →
      (Settings.parse text).toOption = none) ∧
    (∀ node inner, ("display", node) ∈ entries → node.entries? = some inner →
      ∀ key ∈ displayKeys, 2 ≤ (valuesOf key inner).length →
        (Settings.parse text).toOption = none) ∧
    (Gives Node.entries? "display" entries [] [] →
      (∀ settings, Settings.parse text = .ok settings →
        settings.display = Settings.default.display) ∧
      ((∀ key ∈ ["version", "echo", "vim_keys"], valuesOf key entries = []) →
        Settings.parse text = .ok .default)) ∧
    Settings.parse blank = .ok .default ∧
    ∀ (number : UInt64) (short : UInt32) (truth : Bool) (style : PlotStyle)
      (marker : MarkerKind) (title : String) (written : ScalarStyle),
      (Node.scalar none number.toNat.repr .plain).long? = some number ∧
      (Node.scalar none short.toNat.repr .plain).short? = some short ∧
      (Node.scalar none (if truth then "true" else "false") .plain).truth? = some truth ∧
      (Node.scalar none style.name written).variant? PlotStyle.name PlotStyle.all = some style ∧
      (Node.scalar none marker.name written).variant? MarkerKind.name MarkerKind.all =
        some marker ∧
      (Node.scalar none title written).text? = some title := by
  have hread : ∀ settings, Settings.parse text = .ok settings ↔
      settings.SaidBy entries ∧ settings.Usable := fun _ => Settings.parse_eq_ok_iff h
  have hrefused : (∀ settings : Settings, ¬ settings.SaidBy entries) →
      (Settings.parse text).toOption = none := by
    intro hnone
    cases hparse : Settings.parse text with
    | error failure => rfl
    | ok settings => exact absurd ((hread settings).mp hparse).1 (hnone settings)
  refine ⟨?_, hread, ?_, ?_, ?_, Settings.parse_of_isBlank hblank, ?_⟩
  · intro hedits
    apply Option.ext
    intro settings
    have hboth : Settings.parse text = .ok settings ↔ Settings.parse other = .ok settings := by
      rw [hread, Settings.parse_eq_ok_iff hother, Settings.saidBy_of_edits hedits]
    exact ⟨fun hsome => congrArg Except.toOption (hboth.mp (Settings.eq_ok_of_toOption hsome)),
      fun hsome => congrArg Except.toOption (hboth.mpr (Settings.eq_ok_of_toOption hsome))⟩
  · intro key hkey htwo
    exact hrefused fun settings => Settings.not_saidBy_of_two hkey htwo
  · intro node inner hmem hinner key hkey htwo
    refine hrefused fun settings hsaid => ?_
    obtain ⟨found, hfound, hdisplay⟩ := hsaid.display
    obtain rfl : inner = found :=
      Option.some.inj (hinner.symm.trans (gives_of_mem hfound hmem))
    exact DisplaySettings.not_saidBy_of_two hkey htwo hdisplay
  · intro hempty
    refine ⟨fun settings hparse => ((hread settings).mp hparse).1.display_eq hempty, ?_⟩
    intro hplain
    exact (hread _).mpr ⟨Settings.saidBy_default hplain hempty, Settings.usable_default⟩
  · intro number short truth style marker title written
    exact ⟨Node.long?_repr number, Node.short?_repr short, Node.truth?_word truth,
      Node.style?_name style written, Node.marker?_name marker written, rfl⟩

/-- Two files with the same settings in another order, one of them with an unknown entry at
either level, and a file that is only a comment. -/
theorem settings_of_two_orders :
    let text := "echo: false\ndisplay:\n  color: red\n  tick_ms: 250\nversion: 2\n"
    let other := "version: 2\nnotes: [1, \x7ba: b\x7d]\n" ++
      "display: \x7btick_ms: 250, unit: s, color: red\x7d\necho: false\n"
    (Settings.parse text).toOption = (Settings.parse other).toOption ∧
      (Settings.parse text).toOption = some
        { version := 2, display := { tickMs := 250, color := "red" }, echo := false } ∧
      Settings.parse "# nothing\n" = .ok .default := by
  intro text other
  let plain (text : String) := Node.scalar none text .plain
  let mapping (entries : List (String × Node)) :=
    Node.mapping none (entries.map fun entry => (plain entry.1, entry.2))
  let inner := [("color", plain "red"), ("tick_ms", plain "250")]
  let changed := [("tick_ms", plain "250"), ("unit", plain "s"), ("color", plain "red")]
  let notes := Node.sequence none [plain "1", mapping [("a", plain "b")]]
  let rest := [("echo", plain "false"), ("version", plain "2")]
  let entries := [("echo", plain "false"), ("display", mapping inner), ("version", plain "2")]
  let others := [("version", plain "2"), ("notes", notes), ("display", mapping changed),
    ("echo", plain "false")]
  have htext : (Document.ofText text).Holds entries := by
    refine ⟨⟨mapping entries, by decide +kernel, rfl⟩, ?_, by decide +kernel⟩
    intro node hmem
    obtain rfl : node = mapping inner := by simpa [entries] using hmem
    rfl
  have hother : (Document.ofText other).Holds others := by
    refine ⟨⟨mapping others, by decide +kernel, rfl⟩, ?_, by decide +kernel⟩
    intro node hmem
    obtain rfl : node = mapping changed := by simpa [others] using hmem
    rfl
  have hinner : Relation.EqvGen (Edit displayKeys) inner changed :=
    .trans _ _ _ (.rel _ _ (.order (.swap _ _ []))) <|
      .trans _ _ _ (.rel _ _ (.unknown (by decide) (plain "s") _)) <|
        .rel _ _ (.order (.swap _ _ _))
  have hfront : SettingsEdit entries (("display", mapping inner) :: rest) :=
    .outside (.order (.swap _ _ _))
  have hchanged : SettingsEdit (("display", mapping inner) :: rest)
      (("display", mapping changed) :: rest) := .inside rfl rfl hinner rest
  have hnotes : SettingsEdit (("display", mapping changed) :: rest)
      (("notes", notes) :: ("display", mapping changed) :: rest) :=
    .outside (.unknown (by decide) notes _)
  have hback : SettingsEdit (("notes", notes) :: ("display", mapping changed) :: rest) others :=
    .outside (.order (List.perm_append_singleton ("version", plain "2")
      [("notes", notes), ("display", mapping changed), ("echo", plain "false")]))
  have hedits : Relation.EqvGen SettingsEdit entries others :=
    .trans _ _ _ (.rel _ _ hfront) <| .trans _ _ _ (.rel _ _ hchanged) <|
      .trans _ _ _ (.rel _ _ hnotes) (.rel _ _ hback)
  have hblank : (Document.ofText "# nothing\n").IsBlank := by
    constructor <;> decide +kernel
  obtain ⟨hsame, -, -, -, -, hdefault, -⟩ := settings_are_read_by_key htext hother hblank
  exact ⟨hsame hedits, by decide +kernel, hdefault⟩

end StreamPlot
