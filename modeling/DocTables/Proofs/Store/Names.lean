/-
# Names of databases and collections

A store lists its databases and the collections in them, and opens a cursor on a collection of a
database.  Listing and opening agree on a pair of names (`Store.Agrees`) if the collections of the
database can be listed exactly if the database is listed, and a cursor can be opened exactly if the
collection is listed, too.

A store in memory looks all names up in what it lists, so it agrees on all names.  A store of JSON
lines takes the names that it lists from a folder, but goes by a path when it opens something, and
the path is joined from names that nobody has looked at.  It agrees on names that are single parts
of a path, and then opens nothing but the file of the collection in the folder of the database
(`listing_agrees`).  Other names lead it elsewhere (`not_agrees_elsewhere`).
-/
import DocTables.Proofs.Fields
import DocTables.Proofs.Files
import DocTables.Store.JsonLines
import DocTables.Store.Memory

namespace DocTables

/-! ## 1. Agreement -/

namespace Store

/-- The store lists a database of this name. -/
def ListsDatabase (s : Store) (database : String) : Prop :=
  ∃ names, s.databases = .ok names ∧ database ∈ names

/-- The store lists a collection of this name in a database. -/
def ListsCollection (s : Store) (database collection : String) : Prop :=
  ∃ names, s.collections database = .ok names ∧ collection ∈ names

/-- What can be opened is what is listed. -/
structure Agrees (s : Store) (database collection : String) (q : Query) : Prop where
  collections : (∃ names, s.collections database = .ok names) ↔ s.ListsDatabase database
  find : (∃ rows, s.find database collection q = .ok rows) ↔
    s.ListsDatabase database ∧ s.ListsCollection database collection

end Store

theorem MemoryStore.listsDatabase_iff (m : MemoryStore) (database : String) :
    m.toStore.ListsDatabase database ↔ ∃ collections, m.databases.get? database = some collections := by
  rw [← Option.isSome_iff_exists, Fields.get?_isSome_iff]
  simp [Store.ListsDatabase, toStore]

/-- A store in memory agrees on all names. -/
theorem MemoryStore.agrees (m : MemoryStore) (database collection : String) (q : Query) :
    m.toStore.Agrees database collection q := by
  cases hget : m.databases.get? database with
  | none =>
    have hdatabase : m.database database = .error (.databaseNotFound database) := by
      rw [MemoryStore.database, hget]
    have hlists : ¬m.toStore.ListsDatabase database := by simp [listsDatabase_iff, hget]
    have hnames : m.toStore.collections database = .error (.databaseNotFound database) := by
      simp only [toStore, hdatabase, bind, Except.bind]
    have hfind : m.toStore.find database collection q = .error (.databaseNotFound database) := by
      simp only [toStore, find, hdatabase, bind, Except.bind]
    constructor
    · simp [hlists, hnames]
    · simp [hlists, hfind]
  | some collections =>
    have hdatabase : m.database database = .ok collections := by rw [MemoryStore.database, hget]
    have hlists : m.toStore.ListsDatabase database := by simp [listsDatabase_iff, hget]
    have hnames : m.toStore.collections database = .ok collections.keys := by
      simp [toStore, hdatabase, bind, Except.bind, pure, Except.pure]
    constructor
    · simp [hlists, hnames]
    · have hopens : (∃ rows, m.toStore.find database collection q = .ok rows) ↔
          (collections.get? collection).isSome := by
        cases hc : collections.get? collection <;>
          simp [toStore, find, hdatabase, hc, bind, Except.bind, pure, Except.pure]
      simp [hlists, hopens, Store.ListsCollection, hnames, Fields.get?_isSome_iff]

namespace JsonLinesStore

/-! ## 2. Files and names -/

theorem mem_folderNames_iff {f : Files} {path name : String} :
    name ∈ folderNames f path ↔
      ∃ entries, f.get? path = some (.folder entries) ∧ ∃ inner, (name, .folder inner) ∈ entries := by
  simp only [folderNames, List.mem_filterMap, Files.mem_entries_iff]
  constructor
  · rintro ⟨⟨name', bytes | inner⟩, ⟨entries, hget, he⟩, hname⟩
    · simp at hname
    · obtain rfl : name' = name := by simpa using hname
      exact ⟨entries, hget, inner, he⟩
  · rintro ⟨entries, hget, inner, he⟩
    exact ⟨_, ⟨entries, hget, he⟩, rfl⟩

/-- A collection is listed under what stands before the extension of its file, if anything does. -/
theorem mem_collectionNames_iff {f : Files} {path name : String} :
    name ∈ collectionNames f path ↔
      ∃ entries, f.get? path = some (.folder entries) ∧ name ≠ "" ∧
        ∃ bytes, (name ++ "." ++ extension, .file bytes) ∈ entries := by
  simp only [collectionNames, List.mem_filterMap, Files.mem_entries_iff]
  constructor
  · rintro ⟨⟨fileName, bytes | inner⟩, ⟨entries, hget, he⟩, hname⟩
    · obtain ⟨hext, hstem⟩ : (Path.splitExtension fileName).2 = some extension ∧
          (Path.splitExtension fileName).1 = name := by simpa using hname
      obtain ⟨hne, rfl⟩ := Path.eq_of_splitExtension (Prod.ext hstem hext)
      exact ⟨entries, hget, hne, bytes, he⟩
    · simp at hname
  · rintro ⟨entries, hget, hne, bytes, he⟩
    refine ⟨_, ⟨entries, hget, he⟩, ?_⟩
    simp [Path.splitExtension_append hne (by decide : extension ≠ "") (by decide)]

/-- Where the lines of a collection stand. -/
def filePath (s : JsonLinesStore) (database collection : String) : String :=
  Path.join (Path.join s.root database) (collection ++ "." ++ extension)

variable {s : JsonLinesStore} {database collection : String}

theorem collections_eq_ok_iff {names : List String} :
    s.toStore.collections database = .ok names ↔
      s.files.isFolder (Path.join s.root database) = true ∧
        collectionNames s.files (Path.join s.root database) = names := by
  by_cases h : s.files.isFolder (Path.join s.root database) = true
  · simp [toStore, databasePath, h, bind, Except.bind, pure, Except.pure]
  · simp [toStore, databasePath, h, bind, Except.bind]

theorem find_eq_ok_iff {q : Query} {rows : Rows} :
    s.find database collection q = .ok rows ↔
      s.files.isFolder (Path.join s.root database) = true ∧
        ∃ bytes, s.files.read? (s.filePath database collection) = some bytes ∧
          .ofList (LineCursor.toList (s.filePath database collection) q ⟨lines bytes, 0, 0⟩) none =
            rows := by
  unfold filePath
  by_cases h : s.files.isFolder (Path.join s.root database) = true
  · simp only [find, databasePath, h, if_true, bind, Except.bind, true_and]
    cases s.files.read? (Path.join (Path.join s.root database) (collection ++ "." ++ extension)) <;>
      simp [pure, Except.pure, throw, throwThe, MonadExceptOf.throw]
  · simp [find, databasePath, h, bind, Except.bind]

/-! ## 3. Single names -/

/-- A store is opened on a folder. -/
theorem root_of_open? {files : Files} {root : String} (h : open? files root = .ok s) :
    s.files = files ∧ ∃ databases, s.files.get? s.root = some (.folder databases) := by
  unfold open? at h
  split at h
  · rename_i hfolder
    obtain rfl := Except.ok.inj h
    exact ⟨rfl, Files.isFolder_iff.mp hfolder⟩
  · simp at h

theorem listsDatabase_iff :
    s.toStore.ListsDatabase database ↔
      ∃ databases, s.files.get? s.root = some (.folder databases) ∧
        ∃ files, (database, .folder files) ∈ databases := by
  simp [Store.ListsDatabase, toStore, mem_folderNames_iff]

/-- The file of a collection, with these bytes, stands in the folder of its database, and this in
the folder of the store. -/
def Holds (s : JsonLinesStore) (database collection : String) (bytes : List UInt8) : Prop :=
  ∃ databases, s.files.get? s.root = some (.folder databases) ∧
    ∃ files, (database, .folder files) ∈ databases ∧
      (collection ++ "." ++ extension, .file bytes) ∈ files

theorem single_fileName (noSlash : '/' ∉ collection.toList) :
    Path.Single (collection ++ "." ++ extension) := by
  have hlength : 6 ≤ (collection ++ "." ++ extension).toList.length := by
    simp [extension]
  have hne {t : String} (ht : t.toList.length < 6) : collection ++ "." ++ extension ≠ t := by
    rintro rfl
    omega
  refine ⟨hne (by decide), hne (by decide), hne (by decide), ?_⟩
  simpa [extension] using noSlash

variable {databases : List (String × FileTree)}
  (root : s.files.get? s.root = some (.folder databases)) (wellNamed : s.files.root.WellNamed)

include root wellNamed

/-- The path of a database leads to the folder of this name in the folder of the store. -/
theorem get?_database (single : Path.Single database) {files : List (String × FileTree)} :
    s.files.get? (Path.join s.root database) = some (.folder files) ↔
      (database, .folder files) ∈ databases := by
  rw [Files.get?_join_of_wellNamed wellNamed root single]
  exact (Files.wellNamed_of_get? wellNamed root).lookup_eq_some_iff

theorem isFolder_database_iff (single : Path.Single database) :
    s.files.isFolder (Path.join s.root database) = true ↔ s.toStore.ListsDatabase database := by
  simp only [Files.isFolder_iff, get?_database root wellNamed single, listsDatabase_iff, root,
    Option.some.injEq, FileTree.folder.injEq, exists_eq_left']

omit root in
/-- The path of a collection leads to the file of this name in the folder of the database. -/
theorem read?_filePath (noSlash : '/' ∉ collection.toList) {files : List (String × FileTree)}
    (folder : s.files.get? (Path.join s.root database) = some (.folder files)) {bytes : List UInt8} :
    s.files.read? (s.filePath database collection) = some bytes ↔
      (collection ++ "." ++ extension, .file bytes) ∈ files := by
  rw [Files.read?_eq_some_iff, filePath,
    Files.get?_join_of_wellNamed wellNamed folder (single_fileName noSlash)]
  exact (Files.wellNamed_of_get? wellNamed folder).lookup_eq_some_iff

/-- What a cursor is opened on stands where it belongs. -/
theorem holds_iff (single : Path.Single database) (noSlash : '/' ∉ collection.toList)
    {bytes : List UInt8} :
    s.Holds database collection bytes ↔
      s.files.isFolder (Path.join s.root database) = true ∧
        s.files.read? (s.filePath database collection) = some bytes := by
  constructor
  · rintro ⟨_, hroot, files, hfiles, hbytes⟩
    obtain rfl : databases = _ := by simpa using root.symm.trans hroot
    have hfolder := (get?_database root wellNamed single).mpr hfiles
    exact ⟨Files.isFolder_iff.mpr ⟨files, hfolder⟩,
      (read?_filePath wellNamed noSlash hfolder).mpr hbytes⟩
  · rintro ⟨hfolder, hbytes⟩
    obtain ⟨files, hfolder⟩ := Files.isFolder_iff.mp hfolder
    exact ⟨databases, root, files, (get?_database root wellNamed single).mp hfolder,
      (read?_filePath wellNamed noSlash hfolder).mp hbytes⟩

/-- A collection is listed if its file stands in the folder of the database. -/
theorem listsCollection_iff (single : Path.Single database) (hne : collection ≠ "") :
    s.toStore.ListsCollection database collection ↔ ∃ bytes, s.Holds database collection bytes := by
  simp only [Store.ListsCollection, collections_eq_ok_iff, Files.isFolder_iff, Holds, root,
    get?_database root wellNamed single]
  constructor
  · rintro ⟨_, ⟨-, rfl⟩, hlisted⟩
    obtain ⟨files, hfolder, -, bytes, hbytes⟩ := mem_collectionNames_iff.mp hlisted
    exact ⟨bytes, databases, rfl, files, (get?_database root wellNamed single).mp hfolder, hbytes⟩
  · rintro ⟨bytes, _, hroot, files, hfiles, hbytes⟩
    obtain rfl : databases = _ := by simpa using hroot
    have hfolder := (get?_database root wellNamed single).mpr hfiles
    exact ⟨_, ⟨⟨files, hfiles⟩, rfl⟩, mem_collectionNames_iff.mpr ⟨files, hfolder, hne, bytes, hbytes⟩⟩

theorem agrees (single : Path.Single database) (hne : collection ≠ "")
    (noSlash : '/' ∉ collection.toList) (q : Query) :
    s.toStore.Agrees database collection q := by
  constructor
  · rw [← isFolder_database_iff root wellNamed single]
    simp [collections_eq_ok_iff]
  · rw [← isFolder_database_iff root wellNamed single,
      listsCollection_iff root wellNamed single hne]
    simp only [toStore, find_eq_ok_iff, holds_iff root wellNamed single noSlash]
    constructor
    · rintro ⟨rows, hfolder, bytes, hbytes, -⟩
      exact ⟨hfolder, bytes, hfolder, hbytes⟩
    · rintro ⟨hfolder, bytes, -, hbytes⟩
      exact ⟨_, hfolder, bytes, hbytes, rfl⟩

end JsonLinesStore

/-- **Listing and opening agree.**  A store in memory opens what it lists, whatever the names.  So
does a store of JSON lines if the name of the database is a single part of a path and that of the
collection is not empty and has no slash in it; then the collections that it lists have files in the
folder of the database in the folder of the store, and a cursor gives the lines of such a file. -/
theorem listing_agrees (m : MemoryStore) {files : Files} {root : String} {s : JsonLinesStore}
    (hopen : JsonLinesStore.open? files root = .ok s) (wellNamed : files.root.WellNamed)
    (database collection : String) (q : Query) :
    m.toStore.Agrees database collection q ∧
    (Path.Single database →
      (∀ names, s.toStore.collections database = .ok names →
        ∀ name ∈ names, ∃ bytes, s.Holds database name bytes) ∧
      (collection ≠ "" → '/' ∉ collection.toList →
        s.toStore.Agrees database collection q ∧
        ∀ rows, s.toStore.find database collection q = .ok rows → ∃ bytes,
          s.Holds database collection bytes ∧
          rows = .ofList (JsonLinesStore.LineCursor.toList (s.filePath database collection) q
            ⟨JsonLinesStore.lines bytes, 0, 0⟩) none)) := by
  obtain ⟨rfl, databases, hroot⟩ := JsonLinesStore.root_of_open? hopen
  refine ⟨m.agrees database collection q, fun single => ⟨?_, ?_⟩⟩
  · intro names hnames name hlisted
    have hne : name ≠ "" := by
      obtain ⟨-, rfl⟩ := JsonLinesStore.collections_eq_ok_iff.mp hnames
      obtain ⟨-, -, hne, -⟩ := JsonLinesStore.mem_collectionNames_iff.mp hlisted
      exact hne
    exact (JsonLinesStore.listsCollection_iff hroot wellNamed single hne).mp ⟨names, hnames, hlisted⟩
  · intro hne noSlash
    refine ⟨JsonLinesStore.agrees hroot wellNamed single hne noSlash q, ?_⟩
    intro rows hrows
    obtain ⟨hfolder, bytes, hbytes, rfl⟩ := JsonLinesStore.find_eq_ok_iff.mp hrows
    exact ⟨bytes, (JsonLinesStore.holds_iff hroot wellNamed single noSlash).mpr ⟨hfolder, hbytes⟩, rfl⟩

/-- Two files that have the extension. -/
def shopFiles : List (String × FileTree) :=
  [("orders.jsonl", .file [123, 125]), (".jsonl", .file [])]

/-- The folder of a database, and a file beside it. -/
def Files.ofShop : Files := ⟨.folder [("shop", .folder shopFiles), ("stray.jsonl", .file [])], []⟩

theorem Files.wellNamed_ofShop : Files.ofShop.root.WellNamed := by
  refine .folder (by decide) (by decide)
    (List.forall_mem_cons.mpr ⟨?_, List.forall_mem_singleton.mpr (.file _)⟩)
  exact .folder (by decide) (by decide)
    (List.forall_mem_cons.mpr ⟨.file _, List.forall_mem_singleton.mpr (.file _)⟩)

namespace JsonLinesStore

/-- A store in the folder around that of the database. -/
def ofShop : JsonLinesStore := ⟨.ofShop, "/"⟩

theorem get?_root_ofShop :
    ofShop.files.get? ofShop.root =
      some (.folder [("shop", .folder shopFiles), ("stray.jsonl", .file [])]) := rfl

/-- The collection is listed and opened. -/
theorem listing_agrees_orders :
    open? .ofShop "/" = .ok ofShop ∧ Files.ofShop.root.WellNamed ∧ Path.Single "shop" ∧
    ofShop.toStore.ListsDatabase "shop" ∧ ofShop.toStore.ListsCollection "shop" "orders" ∧
    ∃ rows bytes, ofShop.toStore.find "shop" "orders" ⟨none, none, none⟩ = .ok rows ∧
      ofShop.Holds "shop" "orders" bytes := by
  have hopen : open? .ofShop "/" = .ok ofShop := rfl
  have single : Path.Single "shop" := by decide
  have hdatabase : ofShop.toStore.ListsDatabase "shop" :=
    listsDatabase_iff.mpr ⟨_, get?_root_ofShop, _, List.mem_cons_self⟩
  have hcollection : ofShop.toStore.ListsCollection "shop" "orders" :=
    (listsCollection_iff get?_root_ofShop Files.wellNamed_ofShop single (by decide)).mpr
      ⟨_, _, get?_root_ofShop, _, List.mem_cons_self, List.mem_cons_self⟩
  obtain ⟨-, h⟩ :=
    listing_agrees .empty hopen Files.wellNamed_ofShop "shop" "orders" ⟨none, none, none⟩
  obtain ⟨hagrees, hheld⟩ := (h single).2 (by decide) (by decide)
  obtain ⟨rows, hrows⟩ := hagrees.find.mpr ⟨hdatabase, hcollection⟩
  obtain ⟨bytes, hbytes, -⟩ := hheld rows hrows
  exact ⟨hopen, Files.wellNamed_ofShop, single, hdatabase, hcollection, rows, bytes, hrows, hbytes⟩

theorem not_listsCollection_ofShop {collection : String}
    (h : collection = "" ∨ collection = "../stray") :
    ¬ofShop.toStore.ListsCollection "shop" collection := by
  rintro ⟨names, hnames, hlisted⟩
  obtain ⟨-, rfl⟩ := collections_eq_ok_iff.mp hnames
  obtain ⟨files, hfiles, hne, bytes, hbytes⟩ := mem_collectionNames_iff.mp hlisted
  obtain rfl : shopFiles = files := by
    have hfolder : ofShop.files.get? (Path.join ofShop.root "shop") = some (.folder shopFiles) := rfl
    simpa using hfolder.symm.trans hfiles
  obtain rfl := h.resolve_left hne
  have hunnamed : "../stray" ++ "." ++ extension ∉ shopFiles.map Prod.fst := by decide
  exact hunnamed (List.mem_map_of_mem (f := Prod.fst) hbytes)

/-- Without a name, the database is the folder of the store, and the collection a file that has
nothing but the extension; and dots and slashes in the name of a collection lead out of the
database.  None of these is listed. -/
theorem not_agrees_elsewhere :
    open? .ofShop "/" = .ok ofShop ∧ Files.ofShop.root.WellNamed ∧
    (∀ q, ¬ofShop.toStore.Agrees "" "stray" q) ∧
    (∀ q, ¬ofShop.toStore.Agrees "shop" "" q) ∧
    (∀ q, ¬ofShop.toStore.Agrees "shop" "../stray" q) ∧
    (∀ q, ∃ rows, ofShop.toStore.find "shop" "../stray" q = .ok rows) ∧
    ¬∃ bytes, ofShop.Holds "shop" "../stray" bytes := by
  have hopens {collection : String} {bytes : List UInt8}
      (h : ofShop.files.read? (ofShop.filePath "shop" collection) = some bytes) (q : Query) :
      ∃ rows, ofShop.toStore.find "shop" collection q = .ok rows :=
    ⟨_, find_eq_ok_iff.mpr ⟨rfl, bytes, h, rfl⟩⟩
  refine ⟨rfl, Files.wellNamed_ofShop, ?_, ?_, ?_, @hopens "../stray" [] rfl, ?_⟩
  · intro q hagrees
    have hlisted := hagrees.collections.mp ⟨_, collections_eq_ok_iff.mpr ⟨rfl, rfl⟩⟩
    simp [listsDatabase_iff, get?_root_ofShop] at hlisted
  · intro q hagrees
    exact not_listsCollection_ofShop (.inl rfl) (hagrees.find.mp (@hopens "" [] rfl q)).2
  · intro q hagrees
    exact not_listsCollection_ofShop (.inr rfl) (hagrees.find.mp (@hopens "../stray" [] rfl q)).2
  · intro hheld
    exact not_listsCollection_ofShop (.inr rfl)
      ((listsCollection_iff get?_root_ofShop Files.wellNamed_ofShop (by decide) (by decide)).mpr
        hheld)

end JsonLinesStore

end DocTables
