import SchemaForge.Document
import SchemaForge.Proofs.OutputDirectory.Cleaning

/-!
# What writing a document leaves alone

On a tree without links a file is written at the place of its path and nowhere else
(`FileSystem.node?_writeBytes`). The directories above it are created where they are missing, which
takes nothing away, so writing a document leaves everything as it was but the document
(`Document.node?_write`).
-/

namespace SchemaForge

variable {fs : FileSystem} {q : Location} {node : Node}

namespace FileSystem

theorem node?_writeBytes (h : fs.Linkless) {p : Path} (content : Bytes)
    (hq : q ≠ p.place fs.workingDirectory) (hnode : fs.node? q = some node) :
    (fs.writeBytes p content).2.node? q = some node := by
  rw [writeBytes]
  split
  · exact hnode
  · rename_i dir name hlocate
    obtain ⟨hplace, -⟩ := locate_eq h hlocate
    rw [create]
    split
    · exact hnode
    · rw [node?_put_of_ne fs (hplace ▸ hq)]
      exact hnode
  · rename_i loc hlocate
    obtain rfl : loc = _ := locate_eq h hlocate
    split
    · rw [node?_put_of_ne fs hq]
      exact hnode
    · exact hnode
    · exact hnode
    · exact hnode

end FileSystem

namespace Document

theorem node?_place (h : fs.Linkless) {path : Path} (text : String)
    (hq : q ≠ path.place fs.workingDirectory) (hnode : fs.node? q = some node) :
    (place fs path text).2.node? q = some node := by
  have hwrite {fs' : FileSystem} (hextends : FileSystem.Extends fs fs') {fs'' : FileSystem}
      {outcome : Except IoFault Unit}
      (hbytes : fs'.writeBytes path (Utf8.encode text) = (outcome, fs'')) :
      fs''.node? q = some node := by
    have hkept := FileSystem.node?_writeBytes hextends.linkless (Utf8.encode text)
      (hextends.workingDirectory ▸ hq) (hextends.node hnode)
    rwa [hbytes] at hkept
  rw [place]
  dsimp only
  split
  · split
    · rename_i fs' hbytes
      exact hwrite (.refl h) hbytes
    · rename_i fault fs' hbytes
      exact hwrite (.refl h) hbytes
  · rename_i dir hdir
    have hmake := FileSystem.extends_makeFrom h [] (dir.text.bytes.length + 1) dir
    split
    · rename_i fault fs' hdirs
      rw [FileSystem.makeDirectories] at hdirs
      rw [hdirs] at hmake
      exact hmake.node hnode
    · rename_i fs' hdirs
      rw [FileSystem.makeDirectories] at hdirs
      rw [hdirs] at hmake
      split
      · rename_i fs'' hbytes
        exact hwrite hmake hbytes
      · rename_i fault fs'' hbytes
        exact hwrite hmake hbytes

/-- Writing a document leaves what is elsewhere. -/
theorem node?_write (h : fs.Linkless) (v : Validator) (c : Configuration) (source : SchemaSource)
    {path : Path} (hq : q ≠ path.place fs.workingDirectory) (hnode : fs.node? q = some node) :
    (write v fs c source path).2.node? q = some node := by
  rw [write]
  split
  · exact hnode
  · exact node?_place h _ hq hnode

end Document

end SchemaForge
