import AutomationHub.Model.Calendar
import AutomationHub.Model.Identifiers
import Mathlib.Data.List.DropRight

/-!
The checks on an uploaded file, and the path it is stored at.
-/

set_option autoImplicit false

namespace AutomationHub.Utilities

open Model

/-- `_UNSAFE_FILENAME_PATTERN`. -/
def isUnsafe (c : Char) : Bool := c == '\\' || c == '/' || decide (c.toNat ≤ 0x1f) || c.toNat == 0x7f

def stripUnsafe (filename : String) : String :=
  strip (String.ofList (filename.toList.filter fun c => !isUnsafe c))

def sanitizeFilename (filename : String) : Except String String :=
  let sanitized := stripUnsafe filename
  if sanitized = "" then
    .error ("Filename '" ++ filename ++ "' is empty after sanitization; a valid file name is required.")
  else .ok sanitized

/-- `attachments/`. -/
def storageRoot : List Char := ['a', 't', 't', 'a', 'c', 'h', 'm', 'e', 'n', 't', 's', '/']

def buildStoragePath (requestId attachmentId : UUID) (sanitizedFileName : String) : String :=
  String.ofList (storageRoot ++ uuidText requestId ++ '/' :: (uuidText attachmentId ++
    '_' :: sanitizedFileName.toList))

def allowedAttachmentContentTypes : List String :=
  ["application/pdf", "image/png", "image/jpeg", "image/gif", "text/plain", "text/csv", "application/msword",
    "application/vnd.openxmlformats-officedocument.wordprocessingml.document", "application/vnd.ms-excel",
    "application/vnd.openxmlformats-officedocument.spreadsheetml.sheet", "application/zip"]

def maxAttachmentSizeBytes : Nat := 25 * 1024 * 1024

def validateContentType (contentType : String) : Except String String :=
  if contentType ∈ allowedAttachmentContentTypes then .ok contentType
  else .error ("Content type '" ++ contentType ++ "' is not permitted for attachments.")

def validateFileSize (sizeBytes : Nat) : Except String Nat :=
  if sizeBytes = 0 then .error ("File size must be positive, got " ++ toString sizeBytes ++ " bytes.")
  else if maxAttachmentSizeBytes < sizeBytes then
    .error ("File size " ++ toString sizeBytes ++ " bytes exceeds the maximum of " ++ toString maxAttachmentSizeBytes
      ++ " bytes.")
  else .ok sizeBytes

/-- `_MAGIC_BYTE_SIGNATURES`. -/
def magicByteSignatures : List (List UInt8 × String) :=
  [([0x25, 0x50, 0x44, 0x46, 0x2d], "application/pdf"),
    ([0x89, 0x50, 0x4e, 0x47, 0x0d, 0x0a, 0x1a, 0x0a], "image/png"),
    ([0xff, 0xd8, 0xff], "image/jpeg"),
    ([0x47, 0x49, 0x46, 0x38, 0x37, 0x61], "image/gif"),
    ([0x47, 0x49, 0x46, 0x38, 0x39, 0x61], "image/gif"),
    ([0x50, 0x4b, 0x03, 0x04], "application/zip")]

def sniffContentType (content : List UInt8) : Option String :=
  (magicByteSignatures.find? fun entry => entry.1.isPrefixOf content).map Prod.snd

def zipContainerContentTypes : List String :=
  ["application/zip", "application/vnd.openxmlformats-officedocument.wordprocessingml.document",
    "application/vnd.openxmlformats-officedocument.spreadsheetml.sheet"]

def validateContentTypeConsistency (declaredContentType : String) (content : List UInt8) : Except String Unit :=
  match sniffContentType content with
  | none => .ok ()
  | some sniffed =>
      if sniffed = declaredContentType then .ok ()
      else if sniffed = "application/zip" ∧ declaredContentType ∈ zipContainerContentTypes then .ok ()
      else .error ("File content does not match its declared type (declared '" ++ declaredContentType ++ "', detected '"
        ++ sniffed ++ "').")

section Names

/-- A name that may stand in a path. -/
structure SafeName (name : String) : Prop where
  nonempty : name ≠ ""
  safe : ∀ c ∈ name.toList, isUnsafe c = false
  stripped : strip name = name

theorem dropWhile_of_prefix {α : Type} {drops : α → Bool} {front items : List α} (isPrefix : front <+: items)
    (kept : items.dropWhile drops = items) : front.dropWhile drops = front := by
  cases front with
  | nil => rfl
  | cons first front =>
      obtain ⟨rest, rfl⟩ := isPrefix
      cases dropped : drops first with
      | false => rw [List.dropWhile_cons_of_neg (by simp [dropped])]
      | true =>
          have shorter := (List.dropWhile_sublist drops (l := front ++ rest)).length_le
          rw [List.cons_append, List.dropWhile_cons_of_pos dropped] at kept
          rw [kept, List.length_cons] at shorter
          omega

theorem toList_strip (text : String) : (strip text).toList = (text.toList.dropWhile isSpace).rdropWhile isSpace := by
  rw [strip, String.toList_ofList, List.rdropWhile]

theorem mem_strip {text : String} {c : Char} (member : c ∈ (strip text).toList) : c ∈ text.toList := by
  rw [toList_strip] at member
  exact (List.dropWhile_sublist isSpace).subset ((List.rdropWhile_prefix isSpace _).subset member)

theorem strip_strip (text : String) : strip (strip text) = strip text := by
  apply String.toList_inj.mp
  have leading : (strip text).toList.dropWhile isSpace = (strip text).toList := by
    rw [toList_strip]
    exact dropWhile_of_prefix (List.rdropWhile_prefix isSpace _) (List.dropWhile_idempotent isSpace _)
  rw [toList_strip (strip text), leading, toList_strip]
  exact List.rdropWhile_idempotent isSpace _

theorem safeName_of_sanitized {filename name : String} (sanitized : sanitizeFilename filename = .ok name) :
    SafeName name := by
  simp only [sanitizeFilename] at sanitized
  split at sanitized
  · cases sanitized
  · rename_i nonempty
    obtain rfl := Except.ok.inj sanitized
    refine ⟨nonempty, ?_, strip_strip _⟩
    intro c member
    have kept := mem_strip member
    rw [String.toList_ofList, List.mem_filter] at kept
    simpa using kept.2

theorem sanitizeFilename_eq_self {name : String} (safe : SafeName name) : sanitizeFilename name = .ok name := by
  have kept : name.toList.filter (fun c => !isUnsafe c) = name.toList := by
    apply List.filter_eq_self.mpr
    intro c member
    simp [safe.safe c member]
  have same : stripUnsafe name = name := by rw [stripUnsafe, kept, String.ofList_toList, safe.stripped]
  simp only [sanitizeFilename, same, if_neg safe.nonempty]

end Names

section Paths

variable {requestId attachmentId : UUID} {name : String}

/-- The folder of a request, with its closing separator. -/
def storageFolder (requestId : UUID) : List Char := storageRoot ++ uuidText requestId ++ ['/']

theorem notMem_uuidText (mark : Char) (apart : mark ∉ hexAlphabet ∧ mark ≠ '-') (id : UUID) : mark ∉ uuidText id := by
  intro member
  rcases mem_uuidText member with digit | dash
  · exact apart.1 digit
  · exact apart.2 dash

theorem slash_notMem_uuidText (id : UUID) : '/' ∉ uuidText id := notMem_uuidText '/' (by decide) id

theorem underscore_notMem_uuidText (id : UUID) : '_' ∉ uuidText id := notMem_uuidText '_' (by decide) id

theorem toList_buildStoragePath (requestId attachmentId : UUID) (name : String) :
    (buildStoragePath requestId attachmentId name).toList =
      storageFolder requestId ++ (uuidText attachmentId ++ '_' :: name.toList) := by
  rw [buildStoragePath, String.toList_ofList, storageFolder]
  simp only [List.append_assoc, List.cons_append, List.nil_append]

theorem buildStoragePath_inj {otherRequest otherAttachment : UUID} {otherName : String}
    (same : buildStoragePath requestId attachmentId name = buildStoragePath otherRequest otherAttachment otherName) :
    requestId = otherRequest ∧ attachmentId = otherAttachment ∧ name = otherName := by
  have texts := congrArg String.toList same
  simp only [toList_buildStoragePath, storageFolder, List.append_assoc, List.append_cancel_left_eq, List.cons_append,
    List.nil_append] at texts
  obtain ⟨requests, rest⟩ := append_mark_inj (slash_notMem_uuidText _) (slash_notMem_uuidText _) texts
  obtain ⟨attachments, names⟩ := append_mark_inj (underscore_notMem_uuidText _) (underscore_notMem_uuidText _) rest
  exact ⟨uuidText_inj requests, uuidText_inj attachments, String.toList_inj.mp names⟩

theorem storageFolder_prefix_iff (other : UUID) :
    storageFolder other <+: (buildStoragePath requestId attachmentId name).toList ↔ other = requestId := by
  constructor
  · intro inside
    obtain ⟨rest, path⟩ := inside
    simp only [toList_buildStoragePath, storageFolder, List.append_assoc, List.append_cancel_left_eq, List.cons_append,
      List.nil_append] at path
    exact uuidText_inj (append_mark_inj (slash_notMem_uuidText _) (slash_notMem_uuidText _) path).1
  · intro own
    rw [own, toList_buildStoragePath]
    exact List.prefix_append _ _

end Paths

end AutomationHub.Utilities
