import Mathlib.Data.List.Basic
import Reframe.Command.FileTree

/-
  What is where in a tree after a file was written or
  directories were created, and which paths lead to the same
  place as before.

  A place is known by the text that leads to it.  Writing a
  file changes what is at one text, which was no directory,
  so that all walks stay as they are.

  Main declarations:
    * `FilePath.place`
    * `FilePath.names_below`
    * `FilePath.textOf_concat_inj`
    * `FileTree.node?_put_of_eq`
    * `FileTree.node?_put_of_ne`
    * `FileTree.resolve_of_keeps`
    * `FileTree.addsDirectories_createDirectories`
    * `FileTree.IsWritable`
-/

namespace Reframe

namespace FilePath

------------------------------------------------------------
-- Names Below A Path
------------------------------------------------------------

/- The place that the names of a path lead to. -/
def place
    (p : FilePath) : List String :=
  p.names.foldl step []

/- There is always a part. -/
theorem splitAt_ne_nil
    (sep : Char)
    (cs : List Char) :
    IpAddress.splitAt sep cs ≠ [] := by
  fun_cases IpAddress.splitAt sep cs with simp

/- Parts in front of a separator and behind it. -/
theorem splitAt_append
    (sep : Char)
    (cs ds : List Char) :
    IpAddress.splitAt sep (cs ++ sep :: ds) =
      IpAddress.splitAt sep cs ++
        IpAddress.splitAt sep ds := by
  induction cs with
  | nil => simp [IpAddress.splitAt]
  | cons c cs ih =>
      by_cases hSep : c = sep
      · simp [IpAddress.splitAt, hSep, ih]
      · simp only [List.cons_append, IpAddress.splitAt,
          if_neg hSep, ih]
        cases hParts : IpAddress.splitAt sep cs with
        | nil => exact absurd hParts (splitAt_ne_nil sep cs)
        | cons p ps => rfl

/- Without a separator there is one part. -/
theorem splitAt_of_not_mem
    {sep : Char}
    {cs : List Char}
    (hPlain : sep ∉ cs) :
    IpAddress.splitAt sep cs = [cs] := by
  induction cs with
  | nil => rfl
  | cons c cs ih =>
      rw [List.mem_cons, not_or] at hPlain
      simp [IpAddress.splitAt, Ne.symm hPlain.1,
        ih hPlain.2]

/- A text is the name of something in a directory. -/
structure IsName
    (name : String) : Prop where
  ne_empty : name ≠ ""
  ne_dot : name ≠ "."
  ne_dots : name ≠ ".."
  plain : '/' ∉ name.toList

/- Parts of a text that are not empty, as names. -/
theorem filter_map_ofList
    (parts : List (List Char)) :
    (parts.map String.ofList).filter (fun n => n ≠ "") =
      (parts.filter (fun cs => cs ≠ [])).map
        String.ofList := by
  rw [List.filter_map]
  congr 1
  apply List.filter_congr
  intro cs _
  simp [String.ofList_eq_empty_iff]

/- A name below a path is one more part of the text. -/
theorem splitAt_below
    (dir : String)
    {name : String}
    (hName : IsName name) :
    ∃ parts,
      IpAddress.splitAt '/' (below dir name).toList =
          parts ++ [name.toList] ∧
        parts.filter (fun cs => cs ≠ []) =
          (IpAddress.splitAt '/' dir.toList).filter
            (fun cs => cs ≠ []) := by
  have hLast := splitAt_of_not_mem hName.plain
  by_cases hEmpty : dir = ""
  · subst hEmpty
    exact ⟨[], hLast, rfl⟩
  · by_cases hSlash : dir.endsWith "/"
    · have hText : below dir name = dir ++ name :=
        if_pos (Or.inr hSlash)
      rw [← String.endsWith_toSlice,
        String.Slice.endsWith_string_iff,
        String.copy_toSlice] at hSlash
      rcases hSlash with ⟨front, hDir⟩
      refine ⟨IpAddress.splitAt '/' front, ?_, ?_⟩
      · rw [hText, String.toList_append, ← hDir, ← hLast,
          ← splitAt_append]
        simp
      · rw [← hDir]
        change _ =
          (IpAddress.splitAt '/' (front ++ '/' :: [])).filter _
        rw [splitAt_append, List.filter_append]
        simp [IpAddress.splitAt]
    · have hText : below dir name = dir ++ "/" ++ name :=
        if_neg (not_or.mpr ⟨hEmpty, hSlash⟩)
      refine ⟨IpAddress.splitAt '/' dir.toList, ?_, rfl⟩
      rw [hText, String.toList_append, String.toList_append,
        ← hLast, ← splitAt_append]
      simp

/- A name below a path starts at the root if the path does. -/
theorem startsWith_below
    (dir : String)
    {name : String}
    (hName : IsName name) :
    (below dir name).startsWith "/" = dir.startsWith "/" := by
  rw [Bool.eq_iff_iff, String.startsWith_string_iff,
    String.startsWith_string_iff]
  have hPlain : ¬ ['/'] <+: name.toList := by
    intro hFront
    exact hName.plain (hFront.subset (by decide))
  unfold below
  cases hDir : dir.toList with
  | nil =>
      rw [String.toList_eq_nil_iff] at hDir
      simp [hDir, hPlain]
  | cons c cs =>
      split <;> simp [hDir]

/- The path of a name below a path has that name last. -/
theorem names_below
    (dir : String)
    {name : String}
    (hName : IsName name) :
    (ofText (below dir name)).names =
        (ofText dir).names ++ [name] ∧
      (ofText (below dir name)).isDirectory = false := by
  rcases splitAt_below dir hName with
    ⟨parts, hParts, hSame⟩
  refine ⟨?_, ?_⟩
  · simp only [ofText, startsWith_below dir hName,
      filter_map_ofList, hParts, List.filter_append, hSame]
    have := hName.ne_empty
    simp [this]
  · have := hName.ne_empty
    simp [ofText, hParts, this]

/- A name below a path leads below its place. -/
theorem place_below
    (dir : String)
    {name : String}
    (hName : IsName name) :
    (ofText (below dir name)).place =
      (ofText dir).place ++ [name] := by
  rw [place, place, (names_below dir hName).1,
    List.foldl_append, List.foldl_cons, List.foldl_nil,
    step, if_neg hName.ne_dot, if_pos hName.ne_dots]

------------------------------------------------------------
-- Texts Of Places
------------------------------------------------------------

/- The last one of parts is known by their text. -/
theorem intercalate_concat_inj
    (parts : List String)
    {a b : String}
    (hSame :
      "/".intercalate (parts ++ [a]) =
        "/".intercalate (parts ++ [b])) :
    a = b := by
  by_cases hNone : parts = []
  · subst hNone
    simpa using hSame
  · rw [String.intercalate_append_of_ne_nil hNone (by simp),
      String.intercalate_append_of_ne_nil hNone (by simp)]
      at hSame
    simpa using hSame

/- The text of a place that does not start at the root. -/
theorem textOf_of_ne
    {name : String}
    (hName : name ≠ "/")
    (rest : List String) :
    textOf (name :: rest) = "/".intercalate (name :: rest) :=
  textOf.eq_2 _
    (fun _ hRoot => hName (List.cons.inj hRoot).1)

/- A name is no root. -/
theorem IsName.ne_root
    {name : String}
    (hName : IsName name) :
    name ≠ "/" := by
  rintro rfl
  exact hName.plain (by decide)

/- Different names at a place have different texts. -/
theorem textOf_concat_inj
    {place : List String}
    {a b : String}
    (ha : IsName a)
    (hb : IsName b)
    (hSame : textOf (place ++ [a]) = textOf (place ++ [b])) :
    a = b := by
  cases place with
  | nil =>
      rw [List.nil_append, List.nil_append,
        textOf_of_ne ha.ne_root, textOf_of_ne hb.ne_root]
        at hSame
      exact intercalate_concat_inj [] hSame
  | cons name rest =>
      rw [List.cons_append, List.cons_append] at hSame
      by_cases hRoot : name = "/"
      · subst hRoot
        rw [textOf, textOf] at hSame
        exact
          intercalate_concat_inj rest (by simpa using hSame)
      · rw [textOf_of_ne hRoot, textOf_of_ne hRoot] at hSame
        exact intercalate_concat_inj (name :: rest) hSame

end FilePath

namespace FileTree

variable {t t' : FileTree}

------------------------------------------------------------
-- Nodes
------------------------------------------------------------

/- The working directory, or a directory above it. -/
def IsAbove
    (place : List String) : Prop :=
  ∀ n ∈ place, n = ".." ∨ n = "/"

/- Every directory from the working directory up is there. -/
theorem node?_of_isAbove
    {place : List String}
    (hAbove : IsAbove place)
    (t : FileTree) :
    t.node? place = some .directory :=
  if_pos hAbove

/- Elsewhere there is what the text leads to. -/
theorem node?_of_not_isAbove
    {place : List String}
    (hAbove : ¬ IsAbove place)
    (t : FileTree) :
    t.node? place =
      (List.lookup (FilePath.textOf place) t).or
        (hostNode? (FilePath.textOf place)) := by
  unfold IsAbove at hAbove
  simp only [node?, if_neg hAbove]
  cases List.lookup (FilePath.textOf place) t with
  | none => rfl
  | some n => rfl

/- What a text leads to after a node was put. -/
theorem lookup_put
    (t : FileTree)
    (place : List String)
    (n : FileNode)
    (text : String) :
    List.lookup text (t.put place n) =
      if text = FilePath.textOf place then some n
      else List.lookup text t := by
  rw [put, List.lookup_append]
  induction t with
  | nil => grind
  | cons e t ih => grind

/- Only what has the text of the place is replaced. -/
theorem node?_put_of_ne
    {place q : List String}
    (hText : FilePath.textOf q ≠ FilePath.textOf place)
    (t : FileTree)
    (n : FileNode) :
    (t.put place n).node? q = t.node? q := by
  by_cases hAbove : IsAbove q
  · rw [node?_of_isAbove hAbove, node?_of_isAbove hAbove]
  · rw [node?_of_not_isAbove hAbove,
      node?_of_not_isAbove hAbove, lookup_put, if_neg hText]

/- A node that is put is there, below the directories. -/
theorem node?_put_of_eq
    {place q : List String}
    (hText : FilePath.textOf q = FilePath.textOf place)
    (hAbove : ¬ IsAbove q)
    (t : FileTree)
    (n : FileNode) :
    (t.put place n).node? q = some n := by
  rw [node?_of_not_isAbove hAbove, lookup_put, if_pos hText]
  rfl

/- A text leads to one node below the directories. -/
theorem node?_congr
    {place q : List String}
    (hText : FilePath.textOf q = FilePath.textOf place)
    (hAbove : ¬ IsAbove q)
    (hAbove' : ¬ IsAbove place)
    (t : FileTree) :
    t.node? q = t.node? place := by
  rw [node?_of_not_isAbove hAbove,
    node?_of_not_isAbove hAbove', hText]

------------------------------------------------------------
-- Walks
------------------------------------------------------------

/- All directories of a tree are directories of another. -/
def KeepsDirectories
    (t t' : FileTree) : Prop :=
  ∀ q, t.node? q = some .directory →
    t'.node? q = some .directory

/- A walk ends at the place that the names lead to. -/
theorem eq_of_walk
    {place q : List String}
    {names : List String}
    (hWalk : t.walk place names = .ok q) :
    q = names.foldl FilePath.step place := by
  fun_induction walk t place names with
  | case1 place => exact (Except.ok.inj hWalk).symm
  | case2 place name rest hNone => cases hWalk
  | case3 place name rest content hFile => cases hWalk
  | case4 place name rest hDirectory hLong => cases hWalk
  | case5 place name rest hDirectory hShort ih =>
      exact ih hWalk

/- A walk stays possible as long as directories stay. -/
theorem walk_of_keeps
    (hKeeps : KeepsDirectories t t')
    {place q : List String}
    {names : List String}
    (hWalk : t.walk place names = .ok q) :
    t'.walk place names = .ok q := by
  fun_induction walk t place names with
  | case1 place => exact hWalk
  | case2 place name rest hNone => cases hWalk
  | case3 place name rest content hFile => cases hWalk
  | case4 place name rest hDirectory hLong => cases hWalk
  | case5 place name rest hDirectory hShort ih =>
      rw [walk, hKeeps place hDirectory]
      simp only [if_neg hShort]
      exact ih hWalk

/- A path leads to the place of its names. -/
theorem eq_of_resolve
    {p : FilePath}
    {place : List String}
    (hResolve : t.resolve p = .ok place) :
    place = p.place := by
  unfold resolve at hResolve
  split at hResolve
  · cases hResolve
  · split at hResolve
    · cases hResolve
    · exact eq_of_walk hResolve

/- A path stays possible as long as directories stay. -/
theorem resolve_of_keeps
    (hKeeps : KeepsDirectories t t')
    {p : FilePath}
    {place : List String}
    (hResolve : t.resolve p = .ok place) :
    t'.resolve p = .ok place := by
  unfold resolve at hResolve ⊢
  split at hResolve
  · cases hResolve
  · split at hResolve
    · cases hResolve
    · rename_i hSome hShort
      rw [if_neg hSome, if_neg hShort]
      exact walk_of_keeps hKeeps hResolve

/- What is opened is at the place of the path. -/
theorem eq_of_open?
    {p : FilePath}
    {place : List String}
    {n : FileNode}
    (hOpen : t.open? p = .ok (place, n)) :
    place = p.place := by
  unfold open? at hOpen
  split at hOpen
  · cases hOpen
  · rename_i q hResolve
    rw [← eq_of_resolve hResolve]
    split at hOpen
    · cases hOpen
    · cases hOpen
      rfl
    · split at hOpen
      · cases hOpen
      · cases hOpen
        rfl

/- What replaces no directory keeps all directories. -/
theorem keepsDirectories_put
    {place : List String}
    (hNot : t.node? place ≠ some .directory)
    (n : FileNode) :
    KeepsDirectories t (t.put place n) := by
  intro q hDirectory
  by_cases hText : FilePath.textOf q = FilePath.textOf place
  · by_cases hAbove : IsAbove q
    · exact node?_of_isAbove hAbove _
    · have hAbove' : ¬ IsAbove place :=
        fun h => hNot (node?_of_isAbove h t)
      rw [node?_congr hText hAbove hAbove'] at hDirectory
      exact absurd hDirectory hNot
  · rw [node?_put_of_ne hText]
    exact hDirectory

------------------------------------------------------------
-- Writing
------------------------------------------------------------

/-
  A file can be written at a path: the directory that it
  belongs to is there, and no directory has its name.
-/
structure IsWritable
    (t : FileTree)
    (p : FilePath) : Prop where
  resolve_eq : t.resolve p = .ok p.place
  not_directory : t.node? p.place ≠ some .directory
  not_slash : p.isDirectory = false

/- A file that was written could be written. -/
theorem isWritable_of_write
    {p : FilePath}
    {content : Bytes}
    (hWrite : (t.write p content).isOk = true) :
    t.IsWritable p := by
  unfold write at hWrite
  split at hWrite
  · cases hWrite
  · rename_i place hResolve
    have hPlace := eq_of_resolve hResolve
    subst hPlace
    split at hWrite
    · cases hWrite
    · rename_i content' hNode
      split at hWrite
      · cases hWrite
      · rename_i hSlash
        exact
          ⟨hResolve, by simp [hNode], by simpa using hSlash⟩
    · rename_i hNode
      split at hWrite
      · cases hWrite
      · rename_i hSlash
        exact
          ⟨hResolve, by simp [hNode], by simpa using hSlash⟩

/- A file that can be written is put at its place. -/
theorem IsWritable.write_eq
    {p : FilePath}
    (hWritable : t.IsWritable p)
    (content : Bytes) :
    t.write p content =
      .ok (t.put p.place (.file content)) := by
  unfold write
  simp only [hWritable.resolve_eq, hWritable.not_slash]
  cases hNode : t.node? p.place with
  | none => rfl
  | some n =>
      cases n with
      | directory => exact absurd hNode hWritable.not_directory
      | file content' => rfl

/- A file can still be written after another one. -/
theorem IsWritable.put
    {p q : FilePath}
    (hWritable : t.IsWritable p)
    (hNot : t.node? q.place ≠ some .directory)
    (content : Bytes) :
    (t.put q.place (.file content)).IsWritable p := by
  have hKeeps :=
    keepsDirectories_put hNot (FileNode.file content)
  refine
    ⟨resolve_of_keeps hKeeps hWritable.resolve_eq, ?_,
      hWritable.not_slash⟩
  have hAbove : ¬ IsAbove p.place :=
    fun h => hWritable.not_directory (node?_of_isAbove h t)
  by_cases hText :
      FilePath.textOf p.place = FilePath.textOf q.place
  · rw [node?_put_of_eq hText hAbove]
    simp
  · rw [node?_put_of_ne hText]
    exact hWritable.not_directory

/- What was written is read. -/
theorem read_of_node?
    {p : FilePath}
    {content : Bytes}
    (hWritable : t.IsWritable p)
    (hNode : t.node? p.place = some (.file content)) :
    t.read p = .ok content := by
  simp [read, open?, hWritable.resolve_eq, hNode,
    hWritable.not_slash]

------------------------------------------------------------
-- Directories
------------------------------------------------------------

/- A tree has further directories, and is else the same. -/
def AddsDirectories
    (t t' : FileTree) : Prop :=
  ∀ q, t'.node? q = t.node? q ∨
    (t.node? q = none ∧ t'.node? q = some .directory)

/- A directory where there is nothing is a further one. -/
theorem addsDirectories_put
    {place : List String}
    (hNone : t.node? place = none) :
    AddsDirectories t (t.put place .directory) := by
  intro q
  by_cases hText : FilePath.textOf q = FilePath.textOf place
  · by_cases hAbove : IsAbove q
    · apply Or.inl
      rw [node?_of_isAbove hAbove, node?_of_isAbove hAbove]
    · have hAbove' : ¬ IsAbove place := by
        intro h
        rw [node?_of_isAbove h] at hNone
        cases hNone
      apply Or.inr
      rw [node?_congr hText hAbove hAbove',
        node?_put_of_eq hText hAbove]
      exact ⟨hNone, rfl⟩
  · exact Or.inl (node?_put_of_ne hText t _)

/- Directories are added one after another. -/
theorem AddsDirectories.trans
    {t'' : FileTree}
    (hFirst : AddsDirectories t t')
    (hNext : AddsDirectories t' t'') :
    AddsDirectories t t'' := by
  intro q
  rcases hFirst q with hSame | ⟨hNone, hAdded⟩
  · rw [← hSame]
    exact hNext q
  · rcases hNext q with hSame' | ⟨hNone', _⟩
    · exact Or.inr ⟨hNone, hSame'.trans hAdded⟩
    · rw [hAdded] at hNone'
      cases hNone'

/- Creating directories adds directories only. -/
theorem addsDirectories_createAlong
    (t : FileTree)
    (place : List String)
    (created : Bool)
    (names : List String) :
    AddsDirectories t
      (t.createAlong place created names).2 := by
  fun_induction createAlong t place created names with
  | case1 => exact fun q => Or.inl rfl
  | case2 => exact fun q => Or.inl rfl
  | case3 t place created name rest next _ _ ih => exact ih
  | case4 => exact fun q => Or.inl rfl
  | case5 => exact fun q => Or.inl rfl
  | case6 => exact fun q => Or.inl rfl
  | case7 t place created name rest next _ hNone _ ih =>
      exact (addsDirectories_put hNone).trans ih

/- Creating a directory adds directories only. -/
theorem addsDirectories_createDirectories
    (t : FileTree)
    (p : FilePath) :
    AddsDirectories t (t.createDirectories p).2 := by
  unfold createDirectories
  split
  · exact fun q => Or.inl rfl
  · split
    · exact fun q => Or.inl rfl
    · exact t.addsDirectories_createAlong [] false p.ways

/- Further directories leave the files as they are. -/
theorem AddsDirectories.file_iff
    (hAdds : AddsDirectories t t')
    (q : List String)
    (content : Bytes) :
    t'.node? q = some (.file content) ↔
      t.node? q = some (.file content) := by
  rcases hAdds q with hSame | ⟨hNone, hAdded⟩
  · rw [hSame]
  · simp [hNone, hAdded]

/- Further directories do not keep a file from opening. -/
theorem AddsDirectories.open?_eq
    (hAdds : AddsDirectories t t')
    {p : FilePath}
    {place : List String}
    {content : Bytes}
    (hOpen : t.open? p = .ok (place, .file content)) :
    t'.open? p = .ok (place, .file content) := by
  have hKeeps : KeepsDirectories t t' := by
    intro q hDirectory
    rcases hAdds q with hSame | ⟨_, hAdded⟩
    · rw [hSame, hDirectory]
    · exact hAdded
  unfold open? at hOpen ⊢
  cases hResolve : t.resolve p with
  | error e =>
      rw [hResolve] at hOpen
      cases hOpen
  | ok q =>
      rw [resolve_of_keeps hKeeps hResolve]
      simp only [hResolve] at hOpen ⊢
      rcases hAdds q with hSame | ⟨hNone, _⟩
      · rw [hSame]
        exact hOpen
      · rw [hNone] at hOpen
        cases hOpen

end FileTree

end Reframe
