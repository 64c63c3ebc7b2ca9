import StockResearch.Lib.Outcome
import StockResearch.Lib.PosixPath
import StockResearch.Lib.Related
import StockResearch.Sources.Protocol
import StockResearch.Sources.PyExceptions

/-!
# Archives of filings

A filing comes as a ZIP archive. Its central directory is inspected before anything is
extracted: an inventory lists the entries that are no directories, if no entry could be
written outside of a directory, or is encrypted, a link, or packed in an unknown way.

- `ZipInfo`, `ArchiveLibrary`: the ZIP library, as far as archives are inspected.
- `validateArchivePath`, `inspectMember`: `_validate_archive_path` and `_inspect_member`.
- `parseArchive`: `EdinetDocumentRetrievalAdapter.parse`.
- `validateArchivePath_eq_ok`: the paths that are accepted.
- `parseArchive_inventory`: the archives that are accepted, and their inventories.
-/

namespace StockResearch.Sources

/-! ## The library -/

/-- `zipfile.ZipInfo`, of the central directory. -/
structure ZipInfo where
  filename : String
  flagBits : Nat
  externalAttr : Nat
  compressType : Nat
  compressSize : Nat
  fileSize : Nat
  crc : UInt32
deriving DecidableEq

/-- What is used of the ZIP library, and `str.lower`. -/
structure ArchiveLibrary where
  infolist : List UInt8 → Except PyException (List ZipInfo)
  lower : String → String

/-- `text.endswith("/")` -/
def endsWithSlash (text : String) : Bool := text.toList.getLast? = some '/'

/-- `info.is_dir()` -/
def ZipInfo.isDir (info : ZipInfo) : Bool := endsWithSlash info.filename

/-! ## Inventories -/

/-- A digit of `format(n, "x")`. -/
def hexDigit (d : Nat) : Char := if d < 10 then Char.ofNat (48 + d) else Char.ofNat (87 + d)

/-- The low digits of a number in hexadecimal. -/
def hexadecimal : Nat → Nat → List Char
  | 0, _ => []
  | width + 1, n => hexadecimal width (n / 16) ++ [hexDigit (n % 16)]

/-- `f"{crc:08x}"` -/
def crcText (crc : UInt32) : String := String.ofList (hexadecimal 8 crc.toNat)

/-- `^[0-9a-f]{8}$` -/
def isCrcText (text : String) : Bool :=
  text.toList.length = 8 ∧ text.toList.all fun c => c.isDigit || 'a' ≤ c && c ≤ 'f'

/-- `_ArchivePath` -/
def IsArchivePath (path : String) : Prop := 1 ≤ path.length ∧ path.length ≤ 1024

instance (path : String) : Decidable (IsArchivePath path) := inferInstanceAs (Decidable (_ ∧ _))

/-- `EdinetArchiveMember` -/
structure EdinetArchiveMember where
  path : String
  compressedBytes : Nat
  uncompressedBytes : Nat
  crc32 : String
  isXbrl : Bool
  path_bounded : IsArchivePath path
  crc32_valid : isCrcText crc32 = true
deriving DecidableEq

/-- `EdinetDocumentArchive` -/
structure EdinetDocumentArchive where
  archiveSha256 : String
  totalCompressedBytes : Nat
  totalUncompressedBytes : Nat
  members : List EdinetArchiveMember
  paths_nodup : (members.map (·.path)).Nodup
  has_xbrl : ∃ member ∈ members, member.isXbrl = true
deriving DecidableEq

/-! ## Inspection -/

/-- `_validate_archive_path` -/
def validateArchivePath (value : String) (isDirectory : Bool) : Except PyException Unit := do
  require (value ≠ "" ∧ '\\' ∉ value.toList ∧ '\x00' ∉ value.toList) .valueError
  let candidate :=
    if isDirectory ∧ endsWithSlash value then String.ofList value.toList.dropLast else value
  let path := PosixPath.ofText candidate
  require (¬ (candidate = "" ∨ path.parts = [] ∨ path.asPosix ≠ candidate ∨ path.isAbsolute ∨
    ':' ∈ (path.parts.headD "").toList ∨ ∃ part ∈ path.parts, part ∈ ["", ".", ".."])) .valueError

/-- `stat.S_IFLNK` -/
def symlinkType : Nat := 0o120000

/-- `(info.external_attr >> 16) & 0o170000` -/
def ZipInfo.fileType (info : ZipInfo) : Nat := (info.externalAttr >>> 16) &&& 0o170000

/-- `_ALLOWED_COMPRESSION_METHODS`: stored and deflated. -/
def allowedCompressionMethods : List Nat := [0, 8]

variable (library : ArchiveLibrary)

/-- `path.lower().endswith(".xbrl")` -/
def isXbrlPath (path : String) : Bool := ".xbrl".toList.isSuffixOf (library.lower path).toList

/-- `EdinetArchiveMember(...)`, and the checks of the model. -/
def makeMember (info : ZipInfo) : Except PyException EdinetArchiveMember :=
  if h : IsArchivePath info.filename ∧ isCrcText (crcText info.crc) = true then
    .ok { path := info.filename
          compressedBytes := info.compressSize
          uncompressedBytes := info.fileSize
          crc32 := crcText info.crc
          isXbrl := isXbrlPath library info.filename
          path_bounded := h.1
          crc32_valid := h.2 }
  else .error .valueError

/-- `_inspect_member` -/
def inspectMember (info : ZipInfo) : Except PyException EdinetArchiveMember := do
  validateArchivePath info.filename false
  require (info.flagBits &&& 0x1 = 0) .valueError
  require (info.fileType ≠ symlinkType) .valueError
  require (info.compressType ∈ allowedCompressionMethods) .valueError
  makeMember library info

/-- `EdinetDocumentArchive(...)`, and the checks of the model. -/
def makeArchive (sha256 : String) (members : List EdinetArchiveMember) :
    Except PyException EdinetDocumentArchive :=
  if h : (members.map (·.path)).Nodup ∧ ∃ member ∈ members, member.isXbrl = true then
    .ok { archiveSha256 := sha256
          totalCompressedBytes := (members.map (·.compressedBytes)).sum
          totalUncompressedBytes := (members.map (·.uncompressedBytes)).sum
          members
          paths_nodup := h.1
          has_xbrl := h.2 }
  else .error .valueError

/-- The body of the `try` statement. -/
def inspectArchive (sha256 : String) (body : List UInt8) :
    Except PyException EdinetDocumentArchive := do
  let infos ← library.infolist body
  infos.forM fun info => validateArchivePath info.filename info.isDir
  let members ← (infos.filter (!·.isDir)).mapM (inspectMember library)
  makeArchive sha256 members

/-! ## The adapter -/

/-- What leaves the adapters of documents: an error of their own, which is a `ValueError`,
or an exception that they do not take. -/
inductive DocumentError where
  /-- `EdinetDocumentRetrievalParseError("edinet_document_retrieval_invalid")` -/
  | retrievalInvalid
  /-- `EdinetXbrlFactParseError("edinet_xbrl_facts_invalid")` -/
  | factsInvalid
  /-- the `ValueError` of `EdinetXbrlDocument` -/
  | hashMismatch
  | escaped (exception : PyException)
deriving DecidableEq

/-- `except (OSError, RuntimeError, ValueError, zipfile.BadZipFile, zipfile.LargeZipFile)`; a
`NotImplementedError` is a `RuntimeError`. -/
def isRetrievalError : PyException → Bool
  | .osError | .runtimeError | .notImplementedError | .valueError | .badZipFile => true
  | _ => false

/-- The `except` clause of the adapter. -/
def retrievalError (exception : PyException) : DocumentError :=
  if isRetrievalError exception then .retrievalInvalid else .escaped exception

variable {sha256 : List UInt8 → String}

/-- `EdinetDocumentRetrievalAdapter.parse` -/
def parseArchive (response : BoundedSourceResponse sha256) :
    Except DocumentError EdinetDocumentArchive := do
  require (response.mediaType = "application/octet-stream" ∧ response.encoding = "binary")
    .retrievalInvalid
  (inspectArchive library response.digest response.body).mapError retrievalError

/-! ## Paths -/

/-- A text that names something below a directory, on any platform. -/
def IsMemberPath (text : String) : Prop :=
  ∃ first rest, text = joined (first :: rest) ∧ ':' ∉ first.toList ∧
    ∀ name ∈ first :: rest, IsName name ∧ name ≠ ".." ∧ '\\' ∉ name.toList ∧ '\x00' ∉ name.toList

theorem PosixPath.parts_of_root {path : PosixPath} (h : path.root = "") :
    path.parts = path.tail := if_pos h

/-- The checks of a path without the slash of a directory. -/
theorem isMemberPath_iff {text : String} : IsMemberPath text ↔
    ('\\' ∉ text.toList ∧ '\x00' ∉ text.toList) ∧
      ¬ (text = "" ∨ (PosixPath.ofText text).parts = [] ∨ (PosixPath.ofText text).asPosix ≠ text ∨
        (PosixPath.ofText text).isAbsolute ∨
        ':' ∈ ((PosixPath.ofText text).parts.headD "").toList ∨
        ∃ part ∈ (PosixPath.ofText text).parts, part ∈ ["", ".", ".."]) := by
  constructor
  · -- a joined path is read back as its names, so each check sees these
    rintro ⟨first, rest, rfl, hcolon, hnames⟩
    have hpath := PosixPath.ofText_joined (List.cons_ne_nil first rest)
      fun name hname => (hnames name hname).1
    have hclean : ∀ c : Char, c ≠ '/' → (∀ name ∈ first :: rest, c ∉ name.toList) →
        c ∉ (joined (first :: rest)).toList := by
      intro c hc hnot hmem
      obtain ⟨name, hname, hin⟩ := (mem_joined hc).mp hmem
      exact hnot name hname hin
    refine ⟨⟨hclean _ (by decide) fun name hname => (hnames name hname).2.2.1,
      hclean _ (by decide) fun name hname => (hnames name hname).2.2.2⟩, ?_⟩
    rw [hpath]
    have hparts : (PosixPath.mk "" (first :: rest)).parts = first :: rest := rfl
    rw [hparts]
    rintro (hempty | hnil | hnormal | habsolute | hdrive | ⟨part, hpart, hbad⟩)
    · obtain ⟨c, chars, hchars, -⟩ := joined_toList (List.cons_ne_nil first rest)
        fun name hname => (hnames name hname).1
      rw [hempty] at hchars
      cases hchars
    · cases hnil
    · refine hnormal ?_
      rw [PosixPath.asPosix, if_neg fun h => List.cons_ne_nil _ _ h.2]
      exact String.empty_append
    · cases habsolute
    · exact hcolon hdrive
    · obtain ⟨⟨hempty, hdot, -⟩, hup, -, -⟩ := hnames part hpart
      simp only [List.mem_cons, List.not_mem_nil, or_false] at hbad
      rcases hbad with rfl | rfl | rfl
      · exact hempty rfl
      · exact hdot rfl
      · exact hup rfl
  · -- the checks leave a relative path in normal form, which is a join of names
    rintro ⟨⟨hbackslash, hnull⟩, hchecks⟩
    simp only [not_or, not_exists, not_and, ne_eq, not_not] at hchecks
    obtain ⟨-, hparts, hnormal, habsolute, hdrive, hnone⟩ := hchecks
    have hroot : (PosixPath.ofText text).root = "" := by
      by_contra hroot
      exact habsolute (decide_eq_true hroot)
    rw [PosixPath.parts_of_root hroot] at hparts hdrive hnone
    rcases PosixPath.relative_normal_iff.mp ⟨hroot, hnormal⟩ with rfl | ⟨names, hne, hnames, rfl⟩
    · exact absurd (by decide) hparts
    · rw [PosixPath.ofText_joined hne hnames] at hdrive hnone
      obtain ⟨first, rest, rfl⟩ := List.exists_cons_of_ne_nil hne
      refine ⟨first, rest, rfl, hdrive, fun name hname => ⟨hnames name hname, ?_, ?_, ?_⟩⟩
      · rintro rfl
        exact hnone _ hname (by decide)
      · exact fun hin => hbackslash ((mem_joined (by decide)).mpr ⟨name, hname, hin⟩)
      · exact fun hin => hnull ((mem_joined (by decide)).mpr ⟨name, hname, hin⟩)

theorem IsMemberPath.not_endsWithSlash {text : String} (h : IsMemberPath text) :
    endsWithSlash text = false := by
  obtain ⟨first, rest, rfl, -, hnames⟩ := h
  obtain ⟨before, last, heq⟩ : ∃ before last, first :: rest = before ++ [last] :=
    ⟨_, _, (List.dropLast_append_getLast (List.cons_ne_nil first rest)).symm⟩
  obtain ⟨⟨hempty, -, hslash⟩, -⟩ := hnames last (by rw [heq]; simp)
  obtain ⟨chars, c, hchars⟩ : ∃ chars c, last.toList = chars ++ [c] := by
    have hne : last.toList ≠ [] := fun hnil => hempty (String.toList_eq_nil_iff.mp hnil)
    exact ⟨_, _, (List.dropLast_append_getLast hne).symm⟩
  have hc : c ≠ '/' := by
    rintro rfl
    exact hslash (by rw [hchars]; simp)
  have hend : ∃ start, (joined (before ++ [last])).toList = start ++ last.toList := by
    cases before with
    | nil => exact ⟨[], by simp [joined]⟩
    | cons name before =>
      rw [joined_append (List.cons_ne_nil name before) (List.cons_ne_nil last [])]
      exact ⟨(joined (name :: before) ++ "/").toList, by simp [joined]⟩
  obtain ⟨start, hstart⟩ := hend
  rw [heq, endsWithSlash, hstart, hchars, ← List.append_assoc, List.getLast?_concat]
  simpa using hc

theorem IsMemberPath.ne_empty {text : String} (h : IsMemberPath text) : text ≠ "" :=
  fun hempty => (isMemberPath_iff.mp h).2 (.inl hempty)

/-- A path is accepted if it is one of a member, with or without the slash of a directory. -/
theorem validateArchivePath_eq_ok {value : String} {isDirectory : Bool} :
    validateArchivePath value isDirectory = .ok () ↔
      IsMemberPath value ∨ isDirectory = true ∧ ∃ path, IsMemberPath path ∧ value = path ++ "/" := by
  simp only [validateArchivePath, bind_eq_ok, require_eq_ok]
  -- a directory ends in a slash, which is taken off before the checks
  by_cases hslash : isDirectory = true ∧ endsWithSlash value = true
  · have hvalue : value = String.ofList value.toList.dropLast ++ "/" := by
      have hlast := of_decide_eq_true hslash.2
      rw [← String.toList_inj, String.toList_append, String.toList_ofList]
      exact (List.dropLast_append_getLast? _ hlast).symm
    rw [if_pos hslash]
    constructor
    · rintro ⟨-, ⟨-, hbackslash, hnull⟩, hchecks⟩
      refine .inr ⟨hslash.1, _, isMemberPath_iff.mpr ⟨⟨?_, ?_⟩, hchecks⟩, hvalue⟩
      · rw [String.toList_ofList]
        exact fun hmem => hbackslash (List.mem_of_mem_dropLast hmem)
      · rw [String.toList_ofList]
        exact fun hmem => hnull (List.mem_of_mem_dropLast hmem)
    · rintro (hpath | ⟨-, path, hpath, rfl⟩)
      · rw [hpath.not_endsWithSlash] at hslash
        exact absurd hslash.2 Bool.false_ne_true
      · obtain ⟨⟨hbackslash, hnull⟩, hchecks⟩ := isMemberPath_iff.mp hpath
        have hpath' : String.ofList (path ++ "/").toList.dropLast = path := by simp
        refine ⟨(), ⟨?_, ?_, ?_⟩, by rw [hpath']; exact hchecks⟩
        · intro hempty
          have hlength := congrArg String.length hempty
          rw [String.length_append] at hlength
          exact absurd (Nat.eq_zero_of_add_eq_zero hlength).2 (by decide)
        · simpa using hbackslash
        · simpa using hnull
  · rw [if_neg hslash]
    constructor
    · rintro ⟨-, ⟨-, hclean⟩, hchecks⟩
      exact .inl (isMemberPath_iff.mpr ⟨hclean, hchecks⟩)
    · rintro (hpath | ⟨hdirectory, path, -, rfl⟩)
      · obtain ⟨hclean, hchecks⟩ := isMemberPath_iff.mp hpath
        exact ⟨(), ⟨hpath.ne_empty, hclean⟩, hchecks⟩
      · exact absurd ⟨hdirectory, by simp [endsWithSlash]⟩ hslash

theorem validateArchivePath_eq_error {value : String} {isDirectory : Bool} {error : PyException}
    (h : validateArchivePath value isDirectory = .error error) : error = .valueError := by
  simp only [validateArchivePath, bind_eq_error, require_eq_error] at h
  rcases h with ⟨-, rfl⟩ | ⟨-, -, -, rfl⟩ <;> rfl

/-! ## Members -/

theorem hexDigit_valid {d : Nat} (h : d < 16) :
    ((hexDigit d).isDigit || 'a' ≤ hexDigit d && hexDigit d ≤ 'f') = true :=
  (by decide : ∀ d < 16, ((hexDigit d).isDigit || 'a' ≤ hexDigit d && hexDigit d ≤ 'f') = true) d h

theorem isCrcText_crcText (crc : UInt32) : isCrcText (crcText crc) = true := by
  have hwidth : ∀ width n, (hexadecimal width n).length = width ∧
      (hexadecimal width n).all (fun c => c.isDigit || 'a' ≤ c && c ≤ 'f') = true := by
    intro width
    induction width with
    | zero => exact fun n => ⟨rfl, rfl⟩
    | succ width ih =>
      intro n
      obtain ⟨hlength, hall⟩ := ih (n / 16)
      rw [hexadecimal, List.length_append, hlength, List.all_append, hall]
      exact ⟨rfl, by simpa using hexDigit_valid (Nat.mod_lt n (by decide))⟩
  obtain ⟨hlength, hall⟩ := hwidth 8 crc.toNat
  rw [isCrcText, crcText, String.toList_ofList]
  exact decide_eq_true ⟨hlength, hall⟩

/-- An entry that may be a member: no directory, not encrypted, no link. -/
structure IsMemberEntry (info : ZipInfo) : Prop where
  path : IsMemberPath info.filename
  bounded : IsArchivePath info.filename
  plain : info.flagBits &&& 0x1 = 0
  file : info.fileType ≠ symlinkType
  packed : info.compressType ∈ allowedCompressionMethods

/-- What an inventory says of an entry. -/
structure Describes (info : ZipInfo) (member : EdinetArchiveMember) : Prop where
  path : member.path = info.filename
  compressedBytes : member.compressedBytes = info.compressSize
  uncompressedBytes : member.uncompressedBytes = info.fileSize
  crc32 : member.crc32 = crcText info.crc
  isXbrl : member.isXbrl = isXbrlPath library info.filename

theorem Describes.unique {info : ZipInfo} {member other : EdinetArchiveMember}
    (h : Describes library info member) (h' : Describes library info other) : member = other := by
  obtain ⟨path, compressed, uncompressed, crc32, xbrl, hpath, hcrc⟩ := member
  obtain ⟨path', compressed', uncompressed', crc32', xbrl', hpath', hcrc'⟩ := other
  obtain ⟨hp, hc, hu, hd, hx⟩ := h
  obtain ⟨hp', hc', hu', hd', hx'⟩ := h'
  simp only at hp hc hu hd hx hp' hc' hu' hd' hx'
  simp only [hp, hc, hu, hd, hx, hp', hc', hu', hd', hx']

theorem inspectMember_eq_ok {info : ZipInfo} {member : EdinetArchiveMember} :
    inspectMember library info = .ok member ↔ IsMemberEntry info ∧ Describes library info member := by
  simp only [inspectMember, bind_eq_ok, require_eq_ok, makeMember]
  constructor
  · rintro ⟨⟨⟩, hvalid, -, hplain, -, hfile, -, hpacked, hmember⟩
    split at hmember
    · rename_i hbounded
      obtain rfl := Except.ok.inj hmember
      refine ⟨⟨?_, hbounded.1, hplain, hfile, hpacked⟩, rfl, rfl, rfl, rfl, rfl⟩
      rcases validateArchivePath_eq_ok.mp hvalid with hpath | ⟨hfalse, -⟩
      · exact hpath
      · exact absurd hfalse Bool.false_ne_true
    · cases hmember
  · rintro ⟨⟨hpath, hbounded, hplain, hfile, hpacked⟩, hdescribes⟩
    refine ⟨(), validateArchivePath_eq_ok.mpr (.inl hpath), (), hplain, (), hfile, (), hpacked, ?_⟩
    rw [dif_pos ⟨hbounded, isCrcText_crcText info.crc⟩]
    exact congrArg Except.ok (Describes.unique library ⟨rfl, rfl, rfl, rfl, rfl⟩ hdescribes)

theorem inspectMember_eq_error {info : ZipInfo} {error : PyException}
    (h : inspectMember library info = .error error) : error = .valueError := by
  simp only [inspectMember, bind_eq_error, require_eq_error, makeMember] at h
  rcases h with h | ⟨-, -, ⟨-, rfl⟩ | ⟨-, -, ⟨-, rfl⟩ | ⟨-, -, ⟨-, rfl⟩ | ⟨-, -, h⟩⟩⟩⟩
  · exact validateArchivePath_eq_error h
  · rfl
  · rfl
  · rfl
  · split at h
    · cases h
    · exact (Except.error.inj h).symm

/-! ## Archives -/

/-- The entries that are no directories. -/
def filesOf (infos : List ZipInfo) : List ZipInfo := infos.filter (!·.isDir)

/-- The entries of an archive that is accepted. -/
structure IsSafeDirectory (infos : List ZipInfo) : Prop where
  directories : ∀ info ∈ infos, info.isDir = true →
    ∃ path, IsMemberPath path ∧ info.filename = path ++ "/"
  files : ∀ info ∈ filesOf infos, IsMemberEntry info
  distinct : ((filesOf infos).map (·.filename)).Nodup
  has_xbrl : ∃ info ∈ filesOf infos, isXbrlPath library info.filename = true

/-- What an inventory says of the entries of an archive: each file is listed once, in order. -/
structure Inventories (sha256 : String) (infos : List ZipInfo) (archive : EdinetDocumentArchive) :
    Prop where
  archiveSha256 : archive.archiveSha256 = sha256
  members : List.Forall₂ (Describes library) (filesOf infos) archive.members
  compressed : archive.totalCompressedBytes = ((filesOf infos).map (·.compressSize)).sum
  uncompressed : archive.totalUncompressedBytes = ((filesOf infos).map (·.fileSize)).sum

theorem mem_filesOf {infos : List ZipInfo} {info : ZipInfo} :
    info ∈ filesOf infos ↔ info ∈ infos ∧ info.isDir = false := by
  simp [filesOf]

/-- The checks of all paths, and then those of the files. -/
theorem checkEntries_eq_ok {infos : List ZipInfo} {members : List EdinetArchiveMember} :
    (infos.forM fun info => validateArchivePath info.filename info.isDir) = .ok () ∧
        (filesOf infos).mapM (inspectMember library) = .ok members ↔
      (∀ info ∈ infos, info.isDir = true →
          ∃ path, IsMemberPath path ∧ info.filename = path ++ "/") ∧
        (∀ info ∈ filesOf infos, IsMemberEntry info) ∧
        List.Forall₂ (Describes library) (filesOf infos) members := by
  rw [forM_eq_ok, mapM_eq_ok]
  simp only [validateArchivePath_eq_ok, inspectMember_eq_ok, List.forall₂_and_left]
  constructor
  · rintro ⟨hpaths, hfiles, hmembers⟩
    refine ⟨fun info hinfo hdirectory => ?_, hfiles, hmembers⟩
    rcases hpaths info hinfo with hpath | ⟨-, hpath⟩
    · rw [ZipInfo.isDir, hpath.not_endsWithSlash] at hdirectory
      exact absurd hdirectory Bool.false_ne_true
    · exact hpath
  · rintro ⟨hdirectories, hfiles, hmembers⟩
    refine ⟨fun info hinfo => ?_, hfiles, hmembers⟩
    cases hdirectory : info.isDir with
    | true => exact .inr ⟨rfl, hdirectories info hinfo hdirectory⟩
    | false => exact .inl (hfiles info (mem_filesOf.mpr ⟨hinfo, hdirectory⟩)).path

/-- The validators of an inventory see its entries. -/
theorem makeArchive_eq_ok {sha256 : String} {infos : List ZipInfo}
    {members : List EdinetArchiveMember} {archive : EdinetDocumentArchive}
    (h : List.Forall₂ (Describes library) (filesOf infos) members) :
    makeArchive sha256 members = .ok archive ↔
      ((filesOf infos).map (·.filename)).Nodup ∧
        (∃ info ∈ filesOf infos, isXbrlPath library info.filename = true) ∧
        Inventories library sha256 infos archive ∧ archive.members = members := by
  -- the validators see the values of the entries
  have hpaths : members.map (·.path) = (filesOf infos).map (·.filename) :=
    map_eq_map_of_forall₂ (fun _ _ hd => hd.path) h
  have hcompressed : members.map (·.compressedBytes) = (filesOf infos).map (·.compressSize) :=
    map_eq_map_of_forall₂ (fun _ _ hd => hd.compressedBytes) h
  have huncompressed : members.map (·.uncompressedBytes) = (filesOf infos).map (·.fileSize) :=
    map_eq_map_of_forall₂ (fun _ _ hd => hd.uncompressedBytes) h
  have hxbrl : (∃ member ∈ members, member.isXbrl = true) ↔
      ∃ info ∈ filesOf infos, isXbrlPath library info.filename = true := by
    constructor
    · rintro ⟨member, hmem, htrue⟩
      obtain ⟨info, hinfo, hd⟩ := exists_left_of_mem h hmem
      exact ⟨info, hinfo, hd.isXbrl ▸ htrue⟩
    · rintro ⟨info, hinfo, htrue⟩
      obtain ⟨member, hmem, hd⟩ := exists_right_of_mem h hinfo
      exact ⟨member, hmem, hd.isXbrl.trans htrue⟩
  unfold makeArchive
  constructor
  · intro hmake
    split at hmake
    · rename_i hvalid
      obtain rfl := Except.ok.inj hmake
      exact ⟨hpaths ▸ hvalid.1, hxbrl.mp hvalid.2,
        ⟨rfl, h, congrArg List.sum hcompressed, congrArg List.sum huncompressed⟩, rfl⟩
    · cases hmake
  · rintro ⟨hnodup, hsome, hinventory, rfl⟩
    rw [dif_pos ⟨hpaths ▸ hnodup, hxbrl.mpr hsome⟩]
    obtain ⟨digest, compressed, uncompressed, members, hnodup', hsome'⟩ := archive
    obtain ⟨hdigest, -, htotal, htotal'⟩ := hinventory
    simp only at hdigest htotal htotal' hcompressed huncompressed ⊢
    simp only [hcompressed, huncompressed, hdigest, htotal, htotal']

theorem makeArchive_eq_error {sha256 : String} {members : List EdinetArchiveMember}
    {error : PyException} (h : makeArchive sha256 members = .error error) :
    error = .valueError := by
  unfold makeArchive at h
  split at h
  · cases h
  · exact (Except.error.inj h).symm

theorem inspectArchive_eq_ok {digest : String} {body : List UInt8}
    {archive : EdinetDocumentArchive} :
    inspectArchive library digest body = .ok archive ↔
      ∃ infos, library.infolist body = .ok infos ∧ IsSafeDirectory library infos ∧
        Inventories library digest infos archive := by
  simp only [inspectArchive, bind_eq_ok]
  constructor
  · rintro ⟨infos, hinfos, ⟨⟩, hpaths, members, hmembers, hmake⟩
    obtain ⟨hdirectories, hfiles, hdescribes⟩ := (checkEntries_eq_ok library).mp ⟨hpaths, hmembers⟩
    obtain ⟨hdistinct, hxbrl, hinventory, -⟩ := (makeArchive_eq_ok library hdescribes).mp hmake
    exact ⟨infos, hinfos, ⟨hdirectories, hfiles, hdistinct, hxbrl⟩, hinventory⟩
  · rintro ⟨infos, hinfos, hsafe, hinventory⟩
    obtain ⟨hpaths, hmembers⟩ := (checkEntries_eq_ok library).mpr
      ⟨hsafe.directories, hsafe.files, hinventory.members⟩
    exact ⟨infos, hinfos, (), hpaths, _, hmembers, (makeArchive_eq_ok library
      hinventory.members).mpr ⟨hsafe.distinct, hsafe.has_xbrl, hinventory, rfl⟩⟩

/-- Every check of the adapter raises a `ValueError`: other exceptions are the library's. -/
theorem inspectArchive_eq_error {digest : String} {body : List UInt8} {error : PyException}
    (h : inspectArchive library digest body = .error error) :
    error = .valueError ∨ library.infolist body = .error error := by
  simp only [inspectArchive, bind_eq_error] at h
  rcases h with h | ⟨infos, -, h | ⟨-, -, h | ⟨members, -, h⟩⟩⟩
  · exact .inr h
  · obtain ⟨-, info, -, -, -, herror⟩ := forM_eq_error.mp h
    exact .inl (validateArchivePath_eq_error herror)
  · obtain ⟨-, info, -, -, -, herror⟩ := mapM_eq_error.mp h
    exact .inl (inspectMember_eq_error library herror)
  · exact .inl (makeArchive_eq_error h)

/-- An archive is accepted exactly when its media type is the one of an archive and all its
entries are safe; its inventory then lists each file once, in the order of the archive. -/
theorem parseArchive_eq_ok {response : BoundedSourceResponse sha256}
    {archive : EdinetDocumentArchive} :
    parseArchive library response = .ok archive ↔
      (response.mediaType = "application/octet-stream" ∧ response.encoding = "binary") ∧
        ∃ infos, library.infolist response.body = .ok infos ∧ IsSafeDirectory library infos ∧
          Inventories library response.digest infos archive := by
  rw [parseArchive, bind_eq_ok]
  simp only [require_eq_ok, mapError_eq_ok, inspectArchive_eq_ok, exists_const]

/-- The exceptions that leave the adapter are those of the library that it does not take. -/
theorem parseArchive_escapes {response : BoundedSourceResponse sha256} {exception : PyException}
    (h : parseArchive library response = .error (.escaped exception)) :
    library.infolist response.body = .error exception ∧ isRetrievalError exception = false := by
  rw [parseArchive, bind_eq_error] at h
  rcases h with h | ⟨-, -, h⟩
  · exact DocumentError.noConfusion (require_eq_error.mp h).2
  · obtain ⟨raised, hraised, herror⟩ := mapError_eq_error.mp h
    unfold retrievalError at herror
    split at herror
    · cases herror
    · rename_i hnot
      obtain rfl := DocumentError.escaped.inj herror
      rcases inspectArchive_eq_error library hraised with rfl | hlibrary
      · exact absurd rfl hnot
      · exact ⟨hlibrary, Bool.eq_false_iff.mpr hnot⟩

/-- An archive is accepted exactly when it is one by its media type and all its entries are safe;
the inventory then lists each file once. It is refused with the error of the adapter, unless the
library raises what the adapter does not take. -/
theorem archives_inspected (response : BoundedSourceResponse sha256) :
    (∀ archive, parseArchive library response = .ok archive ↔
      (response.mediaType = "application/octet-stream" ∧ response.encoding = "binary") ∧
        ∃ infos, library.infolist response.body = .ok infos ∧ IsSafeDirectory library infos ∧
          Inventories library response.digest infos archive) ∧
      ∀ error, parseArchive library response = .error error → error = .retrievalInvalid ∨
        ∃ exception, error = .escaped exception ∧
          library.infolist response.body = .error exception ∧
          isRetrievalError exception = false := by
  refine ⟨fun archive => parseArchive_eq_ok library, fun error h => ?_⟩
  have hcases : error = .retrievalInvalid ∨ ∃ exception, error = .escaped exception := by
    rcases bind_eq_error.mp h with h | ⟨⟨⟩, -, h⟩
    · exact .inl (require_eq_error.mp h).2.symm
    · obtain ⟨raised, -, heq⟩ := mapError_eq_error.mp h
      unfold retrievalError at heq
      split at heq
      · exact .inl heq.symm
      · exact .inr ⟨raised, heq.symm⟩
  rcases hcases with rfl | ⟨exception, rfl⟩
  · exact .inl rfl
  · exact .inr ⟨exception, rfl, parseArchive_escapes library h⟩

end StockResearch.Sources
