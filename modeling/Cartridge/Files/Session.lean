import Cartridge.Files.Host

/-!
Surroundings as data: a tree of files, the events reported so far, what was printed, and the tools
that were called.
-/

namespace Cartridge

structure Session where
  files : Files
  events : List Event
  printed : String
  calls : List ToolCall
  deriving Repr

namespace Session

def start (files : Files) : Session :=
  ⟨files, [], "", []⟩

def ask {α : Type} (question : Files → α) : StateM Session α := fun s =>
  (question s.files, s)

/-- A change of the files, which stay as they are if it fails. -/
def change (action : Files → Except FileError Files) : StateM Session (Except FileError Unit) :=
  fun s =>
    match action s.files with
    | .ok files => (.ok (), { s with files := files })
    | .error e => (.error e, s)

instance : Host (StateM Session) where
  read path := ask (·.read path)
  write path content := change (·.write path content)
  rename source target := change (·.rename source target)
  remove path := change (·.remove path)
  createDirectories path := fun s =>
    let (files, result) := s.files.createDirectories path
    (result, { s with files := files })
  isPresent path := ask (·.exists? path)
  isDirectory path := ask (·.isDirectory path)
  list path := ask (·.list path)
  report e := modify fun s => { s with events := s.events ++ [e] }
  print text := modify fun s => { s with printed := s.printed ++ text }
  note call := modify fun s => { s with calls := s.calls ++ [call] }

end Session

end Cartridge
