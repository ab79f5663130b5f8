/-!
The methods of the service and the paths under which they are called. Different methods have
different paths, and a path that is not exactly that of a method belongs to none.
-/

namespace ChatServer.Rpc

inductive Method where
  | register | login | listChats | getHistory | chatStream
  deriving DecidableEq

namespace Method

def all : List Method :=
  [register, login, listChats, getHistory, chatStream]

def name : Method → String
  | register => "Register"
  | login => "Login"
  | listChats => "ListChats"
  | getHistory => "GetHistory"
  | chatStream => "ChatStream"

/-- What stands before the names of the methods in their paths. -/
def servicePath : String := "/chat.v1.ChatService/"

def path (method : Method) : String :=
  servicePath ++ method.name

def ofPath? (path : String) : Option Method :=
  all.find? (·.path = path)

def isPublic : Method → Bool
  | register | login => true
  | listChats | getHistory | chatStream => false

/-- A method is found by its path. -/
theorem ofPath?_path (method : Method) : ofPath? method.path = some method := by
  cases method <;> decide +kernel

/-- Only the path of a method leads to it. -/
theorem path_of_ofPath? {text : String} {method : Method} (h : ofPath? text = some method)
    : method.path = text := by
  simpa using List.find?_some h

end Method

end ChatServer.Rpc
