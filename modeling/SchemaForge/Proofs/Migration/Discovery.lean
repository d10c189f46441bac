import Mathlib.Data.List.Pairwise
import SchemaForge.Proofs.FileSystem.Reorder
import SchemaForge.Proofs.Gathering
import SchemaForge.Proofs.Migration.Arrangement
import SchemaForge.Proofs.Migration.ScriptName

/-!
# Which scripts are discovered

`Script.discover` goes through the entries of a directory in the order in which the system
enumerates them, and stops at the first that it cannot use. Here the scripts of a directory are
described by its entries alone, in no order: what an entry contributes (`Script.ReadFrom`), which
entries cannot be used (`Script.Unusable`), and which version an entry has (`Script.HasVersion`).

`discover_enumerated` says that the two agree. Scripts are discovered exactly if every entry can be
used and no two have one version, and then there is one for each entry that has a version. The order
of enumeration is that of the nodes of the tree, so that nothing depends on it is a statement about
reordered trees (`FileSystem.Reorders`).
-/

namespace SchemaForge.Script

variable {fs fs' : FileSystem} {dir : Path} {loc : Location} {name : FileName}
  {names : List FileName} {fileName : String} {s : Script} {scripts found : List Script}
  {version : Version}

/-! ### One entry -/

/-- An entry is a regular file, possibly through links, and its name is a text. -/
structure FileAt (fs : FileSystem) (dir : Path) (name : FileName) (fileName : String) : Prop where
  text : name.text? = some fileName
  isFile : fs.isFile (dir / ⟨fileName⟩) = true

/-- The version of an entry, by its name. -/
def HasVersion (fs : FileSystem) (dir : Path) (name : FileName) (version : Version) : Prop :=
  ∃ fileName parsed, FileAt fs dir name fileName ∧ ScriptName.Says fileName parsed ∧
    parsed.version = version

/-- A script is what the name and the content of an entry say. -/
structure ReadFrom (fs : FileSystem) (dir : Path) (name : FileName) (s : Script) : Prop where
  file : FileAt fs dir name s.fileName
  named : ScriptName.Says s.fileName ⟨s.version, s.description⟩
  path : s.path = dir / ⟨s.fileName⟩
  sql : fs.readText s.path = .ok s.sql
  checksum : s.checksum = Checksum.ofScript s.sql

/-- An entry is named like a script, and cannot be used as one. -/
inductive Unusable (fs : FileSystem) (dir : Path) (name : FileName) : Prop
  | malformed {fileName : String} (file : FileAt fs dir name fileName)
      (malformed : ScriptName.Malformed fileName) : Unusable fs dir name
  | unread {fileName : String} {stem : List Char} {fault : IoFault}
      (file : FileAt fs dir name fileName) (frames : ScriptName.Frames fileName stem)
      (unread : fs.readText (dir / ⟨fileName⟩) = .error fault) : Unusable fs dir name

/-- A regular file contributes what is read from its name and its content. -/
theorem ofEntry_of_fileAt (h : FileAt fs dir name fileName) : ofEntry fs dir name =
    match ScriptName.parse? fileName with
    | none => .ok none
    | some (.error fault) => .error (.migration (some (dir / ⟨fileName⟩)) fault.message)
    | some (.ok parsed) =>
      match fs.readText (dir / ⟨fileName⟩) with
      | .error e => .error (.file (dir / ⟨fileName⟩) e)
      | .ok sql => .ok (some {
          version := parsed.version
          description := parsed.description
          path := dir / ⟨fileName⟩
          fileName
          checksum := Checksum.ofScript sql
          sql }) := by
  have hisFile : ¬(!fs.isFile (dir / ⟨fileName⟩)) = true := by
    rw [h.isFile]
    exact Bool.false_ne_true
  rw [ofEntry, h.text]
  exact if_neg hisFile

/-- What is no regular file contributes nothing. -/
theorem ofEntry_of_not_fileAt (h : ¬∃ fileName, FileAt fs dir name fileName) :
    ofEntry fs dir name = .ok none := by
  rw [ofEntry]
  split
  · rfl
  · rename_i fileName htext
    have hisFile : fs.isFile (dir / ⟨fileName⟩) = false := by
      by_contra hfile
      exact h ⟨fileName, htext, eq_true_of_ne_false hfile⟩
    simp only [hisFile, Bool.not_false, if_true]

theorem ofEntry_eq_some_iff : ofEntry fs dir name = .ok (some s) ↔ ReadFrom fs dir name s := by
  constructor
  · intro h
    by_cases hfile : ∃ fileName, FileAt fs dir name fileName
    · obtain ⟨fileName, hfile⟩ := hfile
      rw [ofEntry_of_fileAt hfile] at h
      split at h
      · cases h
      · cases h
      · rename_i parsed hparsed
        split at h
        · cases h
        · rename_i sql hsql
          obtain rfl := Option.some.inj (Except.ok.inj h)
          exact ⟨hfile, ScriptName.parse?_eq_ok_iff.1 hparsed, rfl, hsql, rfl⟩
    · rw [ofEntry_of_not_fileAt hfile] at h
      cases h
  · intro h
    rw [ofEntry_of_fileAt h.file, ScriptName.parse?_eq_ok_iff.2 h.named]
    simp only [← h.path, h.sql, ← h.checksum]

theorem exists_ofEntry_eq_error_iff :
    (∃ e, ofEntry fs dir name = .error e) ↔ Unusable fs dir name := by
  constructor
  · rintro ⟨e, h⟩
    by_cases hfile : ∃ fileName, FileAt fs dir name fileName
    · obtain ⟨fileName, hfile⟩ := hfile
      rw [ofEntry_of_fileAt hfile] at h
      split at h
      · cases h
      · rename_i fault hfault
        exact .malformed hfile (ScriptName.exists_parse?_eq_error_iff.1 ⟨fault, hfault⟩)
      · rename_i parsed hparsed
        obtain ⟨stem, -, -, hframes, -⟩ := ScriptName.parse?_eq_ok_iff.1 hparsed
        split at h
        · rename_i fault hunread
          exact .unread hfile hframes hunread
        · cases h
    · rw [ofEntry_of_not_fileAt hfile] at h
      cases h
  · intro h
    cases h with
    | malformed hfile hmalformed =>
      obtain ⟨fault, hfault⟩ := ScriptName.exists_parse?_eq_error_iff.2 hmalformed
      rw [ofEntry_of_fileAt hfile, hfault]
      exact ⟨_, rfl⟩
    | @unread fileName stem fault hfile hframes hunread =>
      rw [ofEntry_of_fileAt hfile, hunread]
      -- the name is refused already, or else the content
      split
      · rename_i hnone
        exact absurd ⟨stem, hframes⟩ (ScriptName.parse?_eq_none_iff.1 hnone)
      · exact ⟨_, rfl⟩
      · exact ⟨_, rfl⟩

theorem ReadFrom.unique (h : ReadFrom fs dir name s) {t : Script} (ht : ReadFrom fs dir name t) :
    t = s :=
  Option.some.inj (Except.ok.inj
    ((ofEntry_eq_some_iff.2 ht).symm.trans (ofEntry_eq_some_iff.2 h)))

theorem ReadFrom.hasVersion (h : ReadFrom fs dir name s) : HasVersion fs dir name s.version :=
  ⟨s.fileName, _, h.file, h.named, rfl⟩

/-- An entry with a version is read, unless it is unusable. -/
theorem HasVersion.exists_readFrom (h : HasVersion fs dir name version)
    (husable : ¬Unusable fs dir name) : ∃ s, ReadFrom fs dir name s ∧ s.version = version := by
  obtain ⟨fileName, parsed, hfile, hnamed, rfl⟩ := h
  cases hread : fs.readText (dir / ⟨fileName⟩) with
  | error fault =>
    obtain ⟨stem, -, -, hframes, -⟩ := hnamed
    exact absurd (.unread hfile hframes hread) husable
  | ok sql =>
    let s : Script := ⟨parsed.version, parsed.description, dir / ⟨fileName⟩, fileName,
      Checksum.ofScript sql, sql⟩
    have hs : ReadFrom fs dir name s := ⟨hfile, hnamed, rfl, hread, rfl⟩
    exact ⟨s, hs, rfl⟩

/-! ### All entries -/

/-- The script of an entry, if it has one. -/
def script? (fs : FileSystem) (dir : Path) (name : FileName) : Option Script :=
  contribution? (ofEntry fs dir) name

theorem script?_eq_some_iff : script? fs dir name = some s ↔ ReadFrom fs dir name s :=
  contribution?_eq_some_iff.trans ofEntry_eq_some_iff

theorem ofEntries_eq_gather (fs : FileSystem) (dir : Path) (names : List FileName) :
    ofEntries fs dir names = gather (ofEntry fs dir) names := by
  induction names with
  | nil => rfl
  | cons name names ih =>
    rw [ofEntries, ih]
    cases hentry : ofEntry fs dir name with
    | error e => exact (gather_cons_of_error hentry).symm
    | ok entry =>
      rw [gather_cons_of_ok hentry]
      rfl

/-- **What the entries of a directory come to**: if each of them can be used, their scripts. -/
theorem ofEntries_eq_ok_iff : ofEntries fs dir names = .ok found ↔
    (∀ name ∈ names, ¬Unusable fs dir name) ∧ names.filterMap (script? fs dir) = found := by
  have husable : ∀ name, (∃ entry, ofEntry fs dir name = .ok entry) ↔ ¬Unusable fs dir name := by
    intro name
    rw [← exists_ofEntry_eq_error_iff]
    cases ofEntry fs dir name with
    | error e => exact ⟨nofun, fun h ↦ absurd ⟨e, rfl⟩ h⟩
    | ok entry => exact ⟨fun _ ⟨_, h⟩ ↦ (nomatch h), fun _ ↦ ⟨entry, rfl⟩⟩
  rw [ofEntries_eq_gather, gather_eq_ok_iff]
  simp only [husable]
  rfl

/-- Scripts can be arranged if no two have one version. -/
theorem exists_arrange_iff : (∃ scripts, arrange found = .ok scripts) ↔
    found.Pairwise fun s t ↦ s.version ≠ t.version := by
  constructor
  · rintro ⟨scripts, h⟩
    obtain ⟨hascending, hperm⟩ := arrange_eq_ok_iff.1 h
    exact hperm.pairwise (hascending.imp Version.ne_of_isBefore) Ne.symm
  · intro h
    refine ⟨sort found, arrange_eq_ok_iff.2 ⟨?_, sort_perm found⟩⟩
    have hne := (sort_perm found).symm.pairwise h Ne.symm
    refine ((sorted_sort found).and hne).imp fun hst ↦ ?_
    rcases Version.eq_or_isBefore_of_not_isBefore hst.1 with heq | hbefore
    · exact absurd heq.symm hst.2
    · exact hbefore

/-- Two entries have one version. -/
def Clash (fs : FileSystem) (dir : Path) (names : List FileName) : Prop :=
  ∃ n ∈ names, ∃ m ∈ names, n ≠ m ∧ ∃ version, HasVersion fs dir n version ∧
    HasVersion fs dir m version

/-- Of entries that can all be used the scripts have different versions, unless two entries have
one. -/
theorem pairwise_version_iff (hnodup : names.Nodup)
    (husable : ∀ name ∈ names, ¬Unusable fs dir name) :
    (names.filterMap (script? fs dir)).Pairwise (fun s t ↦ s.version ≠ t.version) ↔
      ¬Clash fs dir names := by
  rw [List.pairwise_filterMap]
  constructor
  · rintro h ⟨n, hn, m, hm, hne, version, hversion, hversion'⟩
    obtain ⟨s, hs, rfl⟩ := hversion.exists_readFrom (husable n hn)
    obtain ⟨t, ht, heq⟩ := hversion'.exists_readFrom (husable m hm)
    have hsymm : Std.Symm fun n m ↦ ∀ s, script? fs dir n = some s → ∀ t,
        script? fs dir m = some t → s.version ≠ t.version :=
      ⟨fun n m h s hs t ht ↦ (h t ht s hs).symm⟩
    exact h.forall hn hm hne s (script?_eq_some_iff.2 hs) t (script?_eq_some_iff.2 ht) heq.symm
  · intro h
    refine hnodup.imp_of_mem fun {n m} hn hm hne s hs t ht heq ↦ ?_
    have hs := (script?_eq_some_iff.1 hs).hasVersion
    have ht := (script?_eq_some_iff.1 ht).hasVersion
    exact h ⟨n, hn, m, hm, hne, s.version, hs, heq ▸ ht⟩

/-! ### The directory -/

theorem discover_of_list (hlist : fs.list dir = .ok (loc, names)) :
    discover fs dir = (ofEntries fs dir names).bind arrange := by
  have hdirectory := FileSystem.isDirectory_iff_exists_list.2 ⟨loc, names, hlist⟩
  rw [discover, hdirectory, hlist]
  rfl

/-- **What is discovered**: if each entry can be used, their scripts in the order of their
versions. -/
theorem discover_eq_ok_iff (hlist : fs.list dir = .ok (loc, names)) :
    discover fs dir = .ok scripts ↔ (∀ name ∈ names, ¬Unusable fs dir name) ∧
      Ascending scripts ∧ scripts.Perm (names.filterMap (script? fs dir)) := by
  rw [discover_of_list hlist, ← arrange_eq_ok_iff]
  cases hfound : ofEntries fs dir names with
  | error e =>
    refine ⟨nofun, fun ⟨husable, _⟩ ↦ ?_⟩
    cases hfound.symm.trans (ofEntries_eq_ok_iff.2 ⟨husable, rfl⟩)
  | ok found =>
    obtain ⟨husable, rfl⟩ := ofEntries_eq_ok_iff.1 hfound
    exact (and_iff_right husable).symm

/-- Whatever is at the path, each script is read from an entry. -/
theorem exists_readFrom_of_discover (h : discover fs dir = .ok scripts) :
    ∀ s ∈ scripts, ∃ name, ReadFrom fs dir name s := by
  intro s hs
  by_cases hdirectory : fs.isDirectory dir = true
  · obtain ⟨loc, names, hlist⟩ := FileSystem.isDirectory_iff_exists_list.1 hdirectory
    obtain ⟨-, -, hperm⟩ := (discover_eq_ok_iff hlist).1 h
    obtain ⟨name, -, hname⟩ := List.mem_filterMap.1 (hperm.subset hs)
    exact ⟨name, script?_eq_some_iff.1 hname⟩
  · rw [Bool.not_eq_true] at hdirectory
    rw [discover, hdirectory] at h
    obtain rfl := Except.ok.inj h
    cases hs

theorem exists_discover_iff (hlist : fs.list dir = .ok (loc, names)) (hnodup : names.Nodup) :
    (∃ scripts, discover fs dir = .ok scripts) ↔
      (∀ name ∈ names, ¬Unusable fs dir name) ∧ ¬Clash fs dir names := by
  simp only [discover_eq_ok_iff hlist, exists_and_left, ← arrange_eq_ok_iff, exists_arrange_iff]
  exact and_congr_right fun husable ↦ pairwise_version_iff hnodup husable

/-! ### The order of enumeration -/

theorem ofEntry_reorders (h : fs.Reorders fs') (hfs : fs.Distinct) (dir : Path)
    (name : FileName) : ofEntry fs' dir name = ofEntry fs dir name := by
  rw [ofEntry, ofEntry]
  simp only [h.isFile_eq hfs, h.readText_eq hfs]

/-- The order of enumeration decides neither whether scripts are discovered nor which. -/
theorem discover_reorders (h : fs.Reorders fs') (hfs : fs.Distinct) (scripts : List Script) :
    discover fs' dir = .ok scripts ↔ discover fs dir = .ok scripts := by
  by_cases hdirectory : fs.isDirectory dir = true
  · obtain ⟨loc, names, hlist⟩ := FileSystem.isDirectory_iff_exists_list.1 hdirectory
    obtain ⟨names', hlist', hperm⟩ := h.exists_list hfs hlist
    have hscript : script? fs' dir = script? fs dir := by
      funext name
      rw [script?, script?, contribution?, contribution?, ofEntry_reorders h hfs]
    have husable : ∀ name, Unusable fs' dir name ↔ Unusable fs dir name := by
      intro name
      rw [← exists_ofEntry_eq_error_iff, ← exists_ofEntry_eq_error_iff, ofEntry_reorders h hfs]
    rw [discover_eq_ok_iff hlist', discover_eq_ok_iff hlist, hscript]
    simp only [husable, hperm.mem_iff, (hperm.filterMap (script? fs dir)).congr_right]
  · rw [Bool.not_eq_true] at hdirectory
    rw [discover, discover, h.isDirectory_eq hfs, hdirectory]
    exact Iff.rfl

/-- **Which scripts are discovered.** The entries of a directory may be enumerated in any order, and
the order changes neither whether scripts are discovered nor which.

If they are, they are in strictly ascending order of their versions, each is read from an entry, and
there is exactly one for each entry that is a regular file and has a version by its name. They are
not exactly if some regular file is named like a script without having a version, or cannot be read,
or two entries have one version. -/
theorem discover_enumerated (hfs : fs.Distinct) (hlist : fs.list dir = .ok (loc, names)) :
    (∀ order, order.Perm names → ∃ fs', fs.Reorders fs' ∧ fs'.list dir = .ok (loc, order)) ∧
      (∀ fs', fs.Reorders fs' → ∀ scripts,
        discover fs' dir = .ok scripts ↔ discover fs dir = .ok scripts) ∧
      (∀ scripts, discover fs dir = .ok scripts → Ascending scripts ∧
        (∀ s ∈ scripts, ∃ name ∈ names, ReadFrom fs dir name s) ∧
        ∀ name ∈ names, ∀ version, HasVersion fs dir name version →
          ∃! s, s ∈ scripts ∧ ReadFrom fs dir name s) ∧
      ((∃ e, discover fs dir = .error e) ↔
        (∃ name ∈ names, Unusable fs dir name) ∨ Clash fs dir names) := by
  refine ⟨fun order horder ↦ FileSystem.exists_reorders hfs hlist horder,
    fun fs' h scripts ↦ discover_reorders h hfs scripts, fun scripts hscripts ↦ ?_, ?_⟩
  · obtain ⟨husable, hascending, hperm⟩ := (discover_eq_ok_iff hlist).1 hscripts
    have hmem : ∀ s, s ∈ scripts ↔ ∃ name ∈ names, ReadFrom fs dir name s := by
      intro s
      simp only [hperm.mem_iff, List.mem_filterMap, script?_eq_some_iff]
    refine ⟨hascending, fun s hs ↦ (hmem s).1 hs, fun name hname version hversion ↦ ?_⟩
    obtain ⟨s, hs, -⟩ := hversion.exists_readFrom (husable name hname)
    exact ⟨s, ⟨(hmem s).2 ⟨name, hname, hs⟩, hs⟩, fun t ht ↦ hs.unique ht.2⟩
  · have hnames : names.Nodup := by
      obtain ⟨-, -, rfl⟩ := FileSystem.list_eq_ok_iff.1 hlist
      exact hfs.nodup_entries loc
    have herror : (∃ e, discover fs dir = .error e) ↔ ¬∃ scripts, discover fs dir = .ok scripts := by
      cases discover fs dir with
      | error e => exact ⟨fun _ ⟨_, h⟩ ↦ (nomatch h), fun _ ↦ ⟨e, rfl⟩⟩
      | ok scripts => exact ⟨fun ⟨_, h⟩ ↦ (nomatch h), fun h ↦ absurd ⟨scripts, rfl⟩ h⟩
    rw [herror, exists_discover_iff hlist hnames, not_and_or, not_not]
    simp only [not_forall, not_not, exists_prop]

/-- A directory that is enumerated with the newer script first, and with a file that is none. -/
theorem discover_enumerated_unsorted :
    let file (name sql : String) : Location × Node :=
      ([RawText.ofText "db", RawText.ofText name], .file (Utf8.encode sql) false)
    let fs : FileSystem := ⟨[([RawText.ofText "db"], .directory none),
      file "V1_10__orders.sql" "CREATE TABLE orders;", file "README.md" "Scripts.",
      file "V1.9.0__users.sql" "CREATE TABLE users;"], []⟩
    let names := ["V1_10__orders.sql", "README.md", "V1.9.0__users.sql"].map RawText.ofText
    fs.Distinct ∧ fs.list ⟨"db"⟩ = .ok ([RawText.ofText "db"], names) ∧
      ∃ scripts, discover fs ⟨"db"⟩ = .ok scripts ∧
        scripts.map Script.fileName = ["V1.9.0__users.sql", "V1_10__orders.sql"] ∧
        Ascending scripts ∧ (∀ s ∈ scripts, ∃ name ∈ names, ReadFrom fs ⟨"db"⟩ name s) ∧
        ∀ fs', fs.Reorders fs' → discover fs' ⟨"db"⟩ = .ok scripts := by
  intro file fs names
  have hfs : fs.Distinct := by
    decide +kernel +zetaReduce
  have hlist : fs.list ⟨"db"⟩ = .ok ([RawText.ofText "db"], names) := by
    decide +kernel +zetaReduce
  have hfound : (match discover fs ⟨"db"⟩ with
      | .ok scripts => decide (scripts.map Script.fileName =
        ["V1.9.0__users.sql", "V1_10__orders.sql"])
      | .error _ => false) = true := by
    decide +kernel +zetaReduce
  split at hfound
  · rename_i scripts hscripts
    obtain ⟨-, hreorders, hdiscovered, -⟩ := discover_enumerated hfs hlist
    obtain ⟨hascending, hread, -⟩ := hdiscovered scripts hscripts
    exact ⟨hfs, hlist, scripts, hscripts, of_decide_eq_true hfound, hascending, hread,
      fun fs' h ↦ (hreorders fs' h scripts).2 hscripts⟩
  · cases hfound

end SchemaForge.Script
