import SystemsDemos.AudioAnalyzer.Framing
import SystemsDemos.Transition.Mealy
import Mathlib.Data.List.DropRight
import Mathlib.Data.List.Nodup

/-!
# The music library

`MusicLibrary` of the music visualizer lists the audio files of a folder and of the folders in it,
each with the lyrics next to it and with a cover.  What the disk holds may change from one call to
the next; the order in which `QDir` lists names is that of the parameter `EntryOrder`.

### Outline

* paths, and `lrcPathOf`, where `MusicLibrary` and `LyricsParser` look for lyrics;
* `Disk`, `findCover`, `scanFolder` and the other functions of the library;
* `Lists`, what the rows say about a folder;
* `library_lists`, over all sequences of calls.
-/

namespace SystemsDemos

/-! ### Paths -/

/-- The entry `name` of a directory that is given by a clean absolute path other than the root. -/
def inDir (dir name : Text) : Text := dir ++ '/' :: name

/-- `fileName`: what stands behind the last slash. -/
def fileName (path : Text) : Text := path.rtakeWhile (· ≠ '/')

/-- `completeBaseName`: the name of the file up to its last dot. -/
def completeBaseName (path : Text) : Text :=
  if '.' ∈ fileName path then ((fileName path).rdropWhile (· ≠ '.')).dropLast else fileName path

/-- `absolutePath` of an absolute path: its directory. -/
def absolutePath (path : Text) : Text :=
  let front := (path.rdropWhile (· ≠ '/')).dropLast
  if front = [] then ['/'] else front

/-- Where the library and the parser look for the lyrics of a file. -/
def lrcPathOf (path : Text) : Text :=
  inDir (absolutePath path) (completeBaseName path ++ ".lrc".toList)

/-! ### The library -/

/-- What a directory lists: the names of the directories and of the files in it. -/
structure Folder where
  dirs : List Text
  files : List Text
  dirs_nodup : dirs.Nodup
  files_nodup : files.Nodup
  slash_notMem : ∀ name ∈ dirs ++ files, '/' ∉ name

/-- The disk, at some time. -/
structure Disk where
  /-- `QDir`: what a directory lists, or `none` when it does not exist. -/
  folder : Text → Option Folder
  /-- `QFile::exists`. -/
  fileExists : Text → Bool
  /-- The text of a file that can be opened. -/
  content : Text → Option Text

/-- The order of the names in `entryList`: with `QDir::Name`, and without a flag. -/
structure EntryOrder where
  byName : List Text → List Text
  byDefault : List Text → List Text
  byName_perm : ∀ names, (byName names).Perm names
  byDefault_perm : ∀ names, (byDefault names).Perm names

/-- `Track`; the lyrics and the cover may be missing, and their paths empty. -/
structure Track where
  name : Text
  audioPath : Url
  lrcPath : Text
  coverPath : Url
  deriving DecidableEq

/-- `AUDIO_EXTS`. -/
def audioExts : List String := ["ncm", "mp3", "flac", "wav", "m4a", "ogg", "aac", "opus"]

/-- `IMG_EXTS`. -/
def imgExts : List String := ["jpg", "jpeg", "png", "webp"]

/-- The name filters `*.ext`, which do not tell cases apart. -/
def hasExt (exts : List String) (name : Text) : Bool :=
  exts.any fun ext => ('.' :: ext.toList).isSuffixOf (name.map Char.toLower)

/-- The signals of the library. -/
inductive LibrarySignal
  | modelReset
  | countChanged
  deriving DecidableEq

/-- `Roles`. -/
inductive Role
  | name
  | audioUrl
  | lrcPath
  | coverUrl
  deriving DecidableEq

/-- `m_tracks`. -/
structure MusicLibrary where
  tracks : List Track
  deriving DecidableEq

namespace MusicLibrary

/-- `findCover`; the empty path when there is none. -/
def findCover (order : EntryOrder) (disk : Disk) (dir baseName : Text) : Url :=
  match disk.folder dir with
  | none => []
  | some folder =>
      let exact := imgExts.map fun ext => inDir dir (baseName ++ '.' :: ext.toList)
      match exact.find? disk.fileExists with
      | some path => path
      | none =>
          match order.byDefault (folder.files.filter (hasExt imgExts)) with
          | [] => []
          | first :: _ => inDir dir first

/-- The directories that `scanFolder` goes through. -/
def searchDirs (order : EntryOrder) (dir : Text) (folder : Folder) : List Text :=
  dir :: ((order.byDefault folder.dirs).filter fun sub =>
    sub.map Char.toLower ≠ "meta".toList).map (inDir dir)

/-- The audio files that a directory lists. -/
def audioFiles (order : EntryOrder) (disk : Disk) (searchDir : Text) : List Text :=
  match disk.folder searchDir with
  | none => []
  | some folder => order.byName (folder.files.filter (hasExt audioExts))

/-- The row for an entry of a directory. -/
def trackOf (order : EntryOrder) (disk : Disk) (searchDir entry : Text) : Track :=
  let path := inDir searchDir entry
  let baseName := completeBaseName path
  let cover := findCover order disk (absolutePath path) baseName
  { name := baseName
    audioPath := path
    lrcPath := if disk.fileExists (lrcPathOf path) then lrcPathOf path else []
    coverPath :=
      if cover = [] then
        findCover order disk (inDir (absolutePath path) "meta".toList) baseName
      else cover }

/-- `scanFolder`. -/
def scanFolder (order : EntryOrder) (library : MusicLibrary) (dir : Text) (disk : Disk) :
    MusicLibrary × List LibrarySignal :=
  if dir = [] then (library, [])
  else
    match disk.folder dir with
    | none => (library, [])
    | some folder =>
        (⟨(searchDirs order dir folder).flatMap fun searchDir =>
          (audioFiles order disk searchDir).map (trackOf order disk searchDir)⟩,
          [.modelReset, .countChanged])

/-- `scanDefaultFolder`, with the home directory and the directory for music. -/
def scanDefaultFolder (order : EntryOrder) (library : MusicLibrary) (homePath musicDir : Text)
    (disk : Disk) : MusicLibrary × List LibrarySignal :=
  let dir := homePath ++ "/Music/网易云音乐".toList
  if (disk.folder dir).isNone ∧ musicDir ≠ [] then library.scanFolder order musicDir disk
  else library.scanFolder order dir disk

/-- `clear`. -/
def clear (_ : MusicLibrary) : MusicLibrary × List LibrarySignal :=
  (⟨[]⟩, [.modelReset, .countChanged])

/-- `data`, for a row and a role. -/
def data (library : MusicLibrary) (row : ℕ) (role : Role) : Option Text :=
  match library.tracks[row]? with
  | none => none
  | some t =>
      match role with
      | .name => some t.name
      | .audioUrl => some t.audioPath
      | .lrcPath => some t.lrcPath
      | .coverUrl => if t.coverPath = [] then none else some t.coverPath

end MusicLibrary

/-- A call of a member function, with the disk as it is found. -/
inductive LibraryCall
  | scanFolder (dir : Text) (disk : Disk)
  | scanDefaultFolder (homePath musicDir : Text) (disk : Disk)
  | clear

/-- The library as an object that answers calls. -/
def MusicLibrary.object (order : EntryOrder) :
    Mealy MusicLibrary LibraryCall (List LibrarySignal) where
  step library
    | .scanFolder dir disk => library.scanFolder order dir disk
    | .scanDefaultFolder homePath musicDir disk =>
        library.scanDefaultFolder order homePath musicDir disk
    | .clear => library.clear

/-! ### Names and directories -/

section Paths

variable {dir dir' name name' base path : Text}

/-- What is taken from the right up to a separator, and what is left then. -/
lemma rtakeWhile_append_sep {α : Type} [DecidableEq α] {sep : α} {w : List α} (h : sep ∉ w)
    (l : List α) :
    (l ++ sep :: w).rtakeWhile (· ≠ sep) = w ∧
      (l ++ sep :: w).rdropWhile (· ≠ sep) = l ++ [sep] := by
  have hall : ∀ a ∈ w.reverse, decide (a ≠ sep) = true := by
    intro a ha
    simpa using ne_of_mem_of_not_mem (List.mem_reverse.mp ha) h
  have hreverse : (l ++ sep :: w).reverse = w.reverse ++ sep :: l.reverse := by simp
  constructor
  · rw [List.rtakeWhile, hreverse, List.takeWhile_append_of_pos hall]
    simp
  · rw [List.rdropWhile, hreverse, List.dropWhile_append_of_pos hall]
    simp

/-- The name of an entry. -/
lemma fileName_inDir (h : '/' ∉ name) : fileName (inDir dir name) = name :=
  (rtakeWhile_append_sep h dir).1

/-- The directory of an entry. -/
lemma absolutePath_inDir (hdir : dir ≠ []) (h : '/' ∉ name) :
    absolutePath (inDir dir name) = dir := by
  have hfront : ((inDir dir name).rdropWhile (· ≠ '/')).dropLast = dir := by
    rw [inDir, (rtakeWhile_append_sep h dir).2, List.dropLast_concat]
  rw [absolutePath, hfront]
  exact if_neg hdir

/-- An entry of a directory says which entry of which directory it is. -/
lemma inDir_inj (h : '/' ∉ name) (h' : '/' ∉ name') :
    inDir dir name = inDir dir' name' ↔ dir = dir' ∧ name = name' := by
  constructor
  · intro heq
    have hname : name = name' := by
      rw [← fileName_inDir h, heq, fileName_inDir h']
    subst hname
    exact ⟨List.append_cancel_right heq, rfl⟩
  · rintro ⟨rfl, rfl⟩
    rfl

/-- The base name of a name with an extension. -/
lemma completeBaseName_inDir {ext : Text} (hbase : '/' ∉ base) (hext : '/' ∉ ext)
    (hdot : '.' ∉ ext) : completeBaseName (inDir dir (base ++ '.' :: ext)) = base := by
  have hname : fileName (inDir dir (base ++ '.' :: ext)) = base ++ '.' :: ext :=
    fileName_inDir (by simp [hbase, hext])
  rw [completeBaseName, hname, if_pos (by simp), (rtakeWhile_append_sep hdot base).2,
    List.dropLast_concat]

lemma absolutePath_ne_nil (path : Text) : absolutePath path ≠ [] := by
  unfold absolutePath
  dsimp only
  split
  · exact List.cons_ne_nil _ _
  · assumption

/-- There is no slash in a base name. -/
lemma slash_notMem_completeBaseName (path : Text) : '/' ∉ completeBaseName path := by
  have hname : '/' ∉ fileName path := by
    intro hmem
    simpa using List.mem_rtakeWhile_imp hmem
  unfold completeBaseName
  split
  · intro hmem
    exact hname ((List.rdropWhile_prefix _ _).subset ((List.dropLast_prefix _).subset hmem))
  · exact hname

/-- The lyrics of a file are their own lyrics: the parser, which is told where they are, finds
them. -/
lemma lrcPathOf_lrcPathOf (path : Text) : lrcPathOf (lrcPathOf path) = lrcPathOf path := by
  have hbase := slash_notMem_completeBaseName path
  have hname : '/' ∉ completeBaseName path ++ ".lrc".toList := by
    simp [hbase]
  rw [lrcPathOf, lrcPathOf, absolutePath_inDir (absolutePath_ne_nil path) hname]
  congr 2
  exact completeBaseName_inDir hbase (by decide) (by decide)

end Paths

/-! ### What the rows say -/

/-- The directories whose files are listed: the folder, and the directories in it but those for
metadata. -/
inductive Searched (disk : Disk) (dir : Text) : Text → Prop
  | here : Searched disk dir dir
  | below {folder : Folder} {sub : Text} (hfolder : disk.folder dir = some folder)
      (hsub : sub ∈ folder.dirs) (hmeta : sub.map Char.toLower ≠ "meta".toList) :
      Searched disk dir (inDir dir sub)

/-- An audio file in one of these directories. -/
def IsAudio (disk : Disk) (dir path : Text) : Prop :=
  ∃ searchDir folder name, Searched disk dir searchDir ∧ disk.folder searchDir = some folder ∧
    name ∈ folder.files ∧ hasExt audioExts name = true ∧ path = inDir searchDir name

/-- An image with the name of the track. -/
def IsNamedCover (disk : Disk) (dir baseName : Text) (path : Url) : Prop :=
  ∃ ext ∈ imgExts, path = inDir dir (baseName ++ '.' :: ext.toList) ∧ disk.fileExists path = true

/-- An image that a directory has for a track: one with its name, and any image if there is none
with its name. -/
def IsCover (disk : Disk) (dir baseName : Text) (path : Url) : Prop :=
  ∃ folder, disk.folder dir = some folder ∧
    (IsNamedCover disk dir baseName path ∨ (∀ other, ¬IsNamedCover disk dir baseName other) ∧
      ∃ name ∈ folder.files, hasExt imgExts name = true ∧ path = inDir dir name)

/-- A row says what there is next to its audio file: the lyrics, and a cover in the same directory
or else in the one for metadata. -/
structure Row (disk : Disk) (t : Track) : Prop where
  name : t.name = completeBaseName t.audioPath
  lrcPath : t.lrcPath =
    if disk.fileExists (lrcPathOf t.audioPath) then lrcPathOf t.audioPath else []
  coverPath :
    let own := absolutePath t.audioPath
    let metadata := inDir own "meta".toList
    IsCover disk own t.name t.coverPath ∨ (∀ path, ¬IsCover disk own t.name path) ∧
      (IsCover disk metadata t.name t.coverPath ∨
        (∀ path, ¬IsCover disk metadata t.name path) ∧ t.coverPath = [])

/-- The rows list the audio files of a folder, each of them once. -/
structure Lists (disk : Disk) (dir : Text) (tracks : List Track) : Prop where
  nodup : (tracks.map Track.audioPath).Nodup
  mem_iff : ∀ path, path ∈ tracks.map Track.audioPath ↔ IsAudio disk dir path
  rows : ∀ t ∈ tracks, Row disk t

/-- The folder that a call scans, if it exists. -/
def LibraryCall.folder? : LibraryCall → Option (Text × Disk)
  | .scanFolder dir disk => if dir ≠ [] ∧ (disk.folder dir).isSome then some (dir, disk) else none
  | .scanDefaultFolder homePath musicDir disk =>
      let dir := homePath ++ "/Music/网易云音乐".toList
      if (disk.folder dir).isSome then some (dir, disk)
      else if musicDir ≠ [] ∧ (disk.folder musicDir).isSome then some (musicDir, disk)
      else none
  | .clear => none

/-- The folder that is listed after a call. -/
def listedAfter (latest : Option (Text × Disk)) : LibraryCall → Option (Text × Disk)
  | .clear => none
  | call => call.folder?.or latest

/-- The rows are those of the folder, if there is one. -/
def Shows (latest : Option (Text × Disk)) (tracks : List Track) : Prop :=
  match latest with
  | none => tracks = []
  | some (dir, disk) => Lists disk dir tracks

namespace MusicLibrary

variable {order : EntryOrder} {disk : Disk} {dir : Text}

/-- The cover that is found is one, and if none is found there is none. -/
lemma findCover_spec (order : EntryOrder) (disk : Disk) (dir baseName : Text) :
    IsCover disk dir baseName (findCover order disk dir baseName) ∨
      (∀ path, ¬IsCover disk dir baseName path) ∧ findCover order disk dir baseName = [] := by
  unfold findCover
  cases hfolder : disk.folder dir with
  | none =>
    refine .inr ⟨?_, rfl⟩
    rintro path ⟨folder, hsome, -⟩
    cases hfolder.symm.trans hsome
  | some folder =>
    dsimp only
    split
    · next path hfind =>
      obtain ⟨ext, hext, rfl⟩ := List.mem_map.mp (List.mem_of_find?_eq_some hfind)
      exact .inl ⟨folder, hfolder, .inl ⟨ext, hext, rfl, List.find?_some hfind⟩⟩
    · next hfind =>
      have hnone : ∀ other, ¬IsNamedCover disk dir baseName other := by
        rintro other ⟨ext, hext, rfl, hexists⟩
        have hmissing := List.find?_eq_none.mp hfind _ (List.mem_map.mpr ⟨ext, hext, rfl⟩)
        exact hmissing hexists
      have hperm := order.byDefault_perm (folder.files.filter (hasExt imgExts))
      split
      · next hnil =>
        rw [hnil] at hperm
        refine .inr ⟨?_, rfl⟩
        rintro path ⟨folder', hsome, hnamed | ⟨-, name, hname, himage, -⟩⟩
        · exact hnone path hnamed
        · obtain rfl := Option.some.inj (hfolder.symm.trans hsome)
          have hmem := hperm.symm.subset (List.mem_filter.mpr ⟨hname, himage⟩)
          exact absurd hmem List.not_mem_nil
      · next first rest hcons =>
        rw [hcons] at hperm
        have hmem := List.mem_filter.mp (hperm.subset List.mem_cons_self)
        exact .inl ⟨folder, hfolder, .inr ⟨hnone, first, hmem.1, hmem.2, rfl⟩⟩

/-- The row that `scanFolder` makes for an entry. -/
lemma row_trackOf (order : EntryOrder) (disk : Disk) (searchDir entry : Text) :
    Row disk (trackOf order disk searchDir entry) := by
  refine ⟨rfl, rfl, ?_⟩
  dsimp only [trackOf]
  have hown := findCover_spec order disk (absolutePath (inDir searchDir entry))
    (completeBaseName (inDir searchDir entry))
  split
  · next hnil =>
    rcases hown with hcover | ⟨hnone, -⟩
    · rw [hnil] at hcover
      obtain ⟨folder, -, ⟨ext, -, heq, -⟩ | ⟨-, name, -, -, heq⟩⟩ := hcover
      · exact absurd heq.symm (List.append_ne_nil_of_right_ne_nil _ (List.cons_ne_nil _ _))
      · exact absurd heq.symm (List.append_ne_nil_of_right_ne_nil _ (List.cons_ne_nil _ _))
    · exact .inr ⟨hnone, findCover_spec order disk _ _⟩
  · next hfound => exact .inl (hown.resolve_right fun h => hfound h.2)

/-- The directories that are searched. -/
lemma mem_searchDirs {folder : Folder} (hfolder : disk.folder dir = some folder)
    {searchDir : Text} : searchDir ∈ searchDirs order dir folder ↔ Searched disk dir searchDir := by
  simp only [searchDirs, List.mem_cons, List.mem_map, List.mem_filter, decide_eq_true_eq,
    (order.byDefault_perm folder.dirs).mem_iff]
  constructor
  · rintro (rfl | ⟨sub, ⟨hsub, hmeta⟩, rfl⟩)
    · exact .here
    · exact .below hfolder hsub hmeta
  · rintro (_ | ⟨hfolder', hsub, hmeta⟩)
    · exact .inl rfl
    · obtain rfl := Option.some.inj (hfolder.symm.trans hfolder')
      exact .inr ⟨_, ⟨hsub, hmeta⟩, rfl⟩

/-- No directory is searched twice. -/
lemma nodup_searchDirs (order : EntryOrder) (dir : Text) (folder : Folder) :
    (searchDirs order dir folder).Nodup := by
  refine List.nodup_cons.mpr ⟨fun hmem => ?_, ?_⟩
  · obtain ⟨sub, -, heq⟩ := List.mem_map.mp hmem
    have hlength := congrArg List.length heq
    simp only [inDir, List.length_append, List.length_cons] at hlength
    omega
  · refine List.Nodup.map (fun sub sub' heq => ?_) (List.Nodup.filter _ ?_)
    · exact (List.cons.inj (List.append_cancel_left heq)).2
    · exact (order.byDefault_perm folder.dirs).nodup_iff.mpr folder.dirs_nodup

/-- The audio files of a directory. -/
lemma mem_audioFiles {searchDir name : Text} :
    name ∈ audioFiles order disk searchDir ↔
      ∃ folder, disk.folder searchDir = some folder ∧ name ∈ folder.files ∧
        hasExt audioExts name = true := by
  unfold audioFiles
  cases disk.folder searchDir with
  | none => simp
  | some folder =>
    simp [(order.byName_perm (folder.files.filter (hasExt audioExts))).mem_iff]

/-- No audio file of a directory is listed twice, and none has a slash in its name. -/
lemma audioFiles_nodup (order : EntryOrder) (disk : Disk) (searchDir : Text) :
    (audioFiles order disk searchDir).Nodup ∧
      ∀ name ∈ audioFiles order disk searchDir, '/' ∉ name := by
  constructor
  · unfold audioFiles
    split
    · exact List.nodup_nil
    · next folder hfolder =>
      exact (order.byName_perm _).nodup_iff.mpr (folder.files_nodup.filter _)
  · intro name hname
    obtain ⟨folder, -, hfile, -⟩ := mem_audioFiles.mp hname
    exact folder.slash_notMem name (List.mem_append_right _ hfile)

/-- The lyrics of a row are next to its audio file. -/
def LyricsBeside (t : Track) : Prop := t.lrcPath = [] ∨ t.lrcPath = lrcPathOf t.audioPath

/-- Every call keeps the lyrics next to the audio files. -/
lemma lyricsBeside_next {library : MusicLibrary} (h : ∀ t ∈ library.tracks, LyricsBeside t)
    (call : LibraryCall) : ∀ t ∈ ((object order).next library call).tracks, LyricsBeside t := by
  have hscan : ∀ dir disk, ∀ t ∈ (library.scanFolder order dir disk).1.tracks, LyricsBeside t := by
    intro dir disk t ht
    unfold scanFolder at ht
    split at ht
    · exact h t ht
    · split at ht
      · exact h t ht
      · obtain ⟨searchDir, -, ht⟩ := List.mem_flatMap.mp ht
        obtain ⟨entry, -, rfl⟩ := List.mem_map.mp ht
        dsimp only [LyricsBeside, trackOf]
        split
        · exact .inr rfl
        · exact .inl rfl
  cases call with
  | scanFolder dir disk => exact hscan dir disk
  | scanDefaultFolder homePath musicDir disk =>
    change ∀ t ∈ (library.scanDefaultFolder order homePath musicDir disk).1.tracks, _
    unfold scanDefaultFolder
    dsimp only
    split
    · exact hscan musicDir disk
    · exact hscan _ disk
  | clear => exact fun t ht => absurd ht List.not_mem_nil

/-- A folder that exists is listed. -/
lemma lists_scanFolder {folder : Folder} (library : MusicLibrary) (hne : dir ≠ [])
    (hfolder : disk.folder dir = some folder) :
    Lists disk dir (library.scanFolder order dir disk).1.tracks := by
  have htracks : (library.scanFolder order dir disk).1.tracks =
      (searchDirs order dir folder).flatMap fun searchDir =>
        (audioFiles order disk searchDir).map (trackOf order disk searchDir) := by
    rw [scanFolder, if_neg hne, hfolder]
  have hpaths : (library.scanFolder order dir disk).1.tracks.map Track.audioPath =
      (searchDirs order dir folder).flatMap fun searchDir =>
        (audioFiles order disk searchDir).map (inDir searchDir) := by
    rw [htracks, List.map_flatMap]
    refine List.flatMap_congr fun searchDir _ => ?_
    rw [List.map_map]
    rfl
  refine ⟨?_, fun path => ?_, fun t ht => ?_⟩
  · rw [hpaths, List.nodup_flatMap]
    refine ⟨fun searchDir _ => ?_, ?_⟩
    · refine List.Nodup.map (fun name name' heq => ?_) (audioFiles_nodup order disk searchDir).1
      exact (List.cons.inj (List.append_cancel_left heq)).2
    · refine (nodup_searchDirs order dir folder).imp fun hdirs path hpath hpath' => ?_
      -- a file in two directories would have two names
      obtain ⟨name, hname, rfl⟩ := List.mem_map.mp hpath
      obtain ⟨name', hname', heq⟩ := List.mem_map.mp hpath'
      have hslash := (audioFiles_nodup order disk _).2 name hname
      have hslash' := (audioFiles_nodup order disk _).2 name' hname'
      exact hdirs ((inDir_inj hslash' hslash).mp heq).1.symm
  · rw [hpaths]
    simp only [List.mem_flatMap, mem_searchDirs hfolder, List.mem_map, mem_audioFiles]
    constructor
    · rintro ⟨searchDir, hsearched, name, ⟨folder', hfolder', hfile, haudio⟩, rfl⟩
      exact ⟨searchDir, folder', name, hsearched, hfolder', hfile, haudio, rfl⟩
    · rintro ⟨searchDir, folder', name, hsearched, hfolder', hfile, haudio, rfl⟩
      exact ⟨searchDir, hsearched, name, ⟨folder', hfolder', hfile, haudio⟩, rfl⟩
  · rw [htracks] at ht
    obtain ⟨searchDir, -, ht⟩ := List.mem_flatMap.mp ht
    obtain ⟨entry, -, rfl⟩ := List.mem_map.mp ht
    exact row_trackOf order disk searchDir entry

/-- What a call of `scanFolder` shows. -/
lemma shows_scanFolder {latest : Option (Text × Disk)} {library : MusicLibrary}
    (h : Shows latest library.tracks) (dir : Text) (disk : Disk) :
    Shows ((LibraryCall.scanFolder dir disk).folder?.or latest)
      (library.scanFolder order dir disk).1.tracks := by
  by_cases hdir : dir ≠ [] ∧ (disk.folder dir).isSome
  · obtain ⟨folder, hfolder⟩ := Option.isSome_iff_exists.mp hdir.2
    rw [LibraryCall.folder?, if_pos hdir]
    exact lists_scanFolder library hdir.1 hfolder
  · rw [LibraryCall.folder?, if_neg hdir, Option.none_or]
    have hsame : library.scanFolder order dir disk = (library, []) := by
      rw [scanFolder]
      by_cases hne : dir = []
      · exact if_pos hne
      · rw [if_neg hne]
        cases hfolder : disk.folder dir with
        | none => rfl
        | some folder => exact absurd ⟨hne, by rw [hfolder]; rfl⟩ hdir
    rwa [hsame]

/-- What a call of `scanDefaultFolder` shows. -/
lemma shows_scanDefaultFolder {latest : Option (Text × Disk)} {library : MusicLibrary}
    (h : Shows latest library.tracks) (homePath musicDir : Text) (disk : Disk) :
    Shows ((LibraryCall.scanDefaultFolder homePath musicDir disk).folder?.or latest)
      (library.scanDefaultFolder order homePath musicDir disk).1.tracks := by
  have hne : homePath ++ "/Music/网易云音乐".toList ≠ [] :=
    List.append_ne_nil_of_right_ne_nil _ (by decide)
  rw [scanDefaultFolder, LibraryCall.folder?]
  generalize homePath ++ "/Music/网易云音乐".toList = dir at hne ⊢
  have hdir := @shows_scanFolder order _ _ h dir disk
  have hmusic := @shows_scanFolder order _ _ h musicDir disk
  rw [LibraryCall.folder?] at hdir hmusic
  cases hfolder : disk.folder dir with
  | some folder => simpa [hfolder, hne] using hdir
  | none =>
    by_cases hnone : musicDir = []
    · simpa [hfolder, hnone] using hdir
    · simpa [hfolder, hnone] using hmusic

/-- **The library lists the audio files of the last folder that was found, each of them once.**
After any calls, whatever the disk holds at each of them and in whatever order the names are listed,
the rows are the audio files of the last folder scanned that exists, none of them twice, each with
the lyrics next to it and with a cover that is meant for it; and there are none if there is no such
folder, or after `clear`. -/
theorem library_lists (order : EntryOrder) (calls : List LibraryCall) :
    Shows (calls.foldl listedAfter none) ((object order).after ⟨[]⟩ calls).tracks := by
  induction calls using List.reverseRecOn with
  | nil => rfl
  | append_singleton calls call ih =>
    rw [Mealy.after, List.foldl_concat, List.foldl_concat]
    cases call with
    | scanFolder dir disk => exact shows_scanFolder ih dir disk
    | scanDefaultFolder homePath musicDir disk =>
      exact shows_scanDefaultFolder ih homePath musicDir disk
    | clear => rfl

end MusicLibrary

end SystemsDemos
