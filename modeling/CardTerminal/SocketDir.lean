/-!
Where the sockets of readers and the status file are: all in one directory.
-/

namespace CardTerminal.SocketDir

/-- The directory unless another one is chosen. -/
def standard : String := "/var/run/openct"

/-- The environment variable that chooses another directory. -/
def environmentName : String := "OPENCT_SOCKETDIR"

/-- The name of the socket that answers for all readers. -/
def masterName : String := "master"

def statusName : String := "status"

def within (dir name : String) : String :=
  if dir.isEmpty || dir.endsWith "/" then dir ++ name else dir ++ "/" ++ name

/-- The directory that the environment chooses. -/
def chosen (environment : String → Option String) : String :=
  (environment environmentName).getD standard

def reader (dir : String) (index : Nat) : String :=
  within dir (toString index)

/-- The socket that answers for all readers. -/
def master (dir : String) : String :=
  within dir masterName

def status (dir : String) : String :=
  within dir statusName

end CardTerminal.SocketDir
