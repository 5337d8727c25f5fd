import Parley.Json.Basic

/-!
A bot to try out: it takes orders for pizza.
-/

namespace Parley.Sample

def textCard (text : String) : Json := .obj [("type", .str "text"), ("text", .str text)]

def question (prompt variableName : String) : Json :=
  .obj [("type", .str "userInput"), ("prompt", .str prompt), ("variableName", .str variableName)]

def reply (title blockId : String) : Json :=
  .obj [("title", .str title), ("blockId", .str blockId)]

def block (id name : String) (triggers : List String) (cards : List Json) : Json :=
  .obj [("id", .str id), ("name", .str name), ("triggers", .arr (triggers.map .str)),
    ("cards", .arr cards)]

def menu : Json :=
  block "menu" "Menu" ["menu", "hi", "hello"]
    [textCard "Welcome to Pizza Bot!",
      .obj [("type", .str "quickReply"), ("text", .str "What would you like?"),
        ("buttons", .arr [reply "Order" "order", reply "Hours" "hours"])]]

def order : Json :=
  block "order" "Order" ["order"]
    [question "What's your name?" "name",
      question "Which pizza, \x7b\x7bname\x7d\x7d?" "pizza",
      .obj [("type", .str "delay"), ("seconds", .int 1), ("showTyping", .bool true)],
      textCard "Thanks \x7b\x7bname\x7d\x7d, one \x7b\x7bpizza\x7d\x7d coming up.",
      .obj [("type", .str "goToBlock"), ("blockId", .str "menu")]]

def website : Json :=
  .obj [("type", .str "url"), ("title", .str "Website"), ("url", .str "https://example.com")]

def orderButton : Json :=
  .obj [("type", .str "block"), ("title", .str "Order now"), ("blockId", .str "order")]

def hours : Json :=
  block "hours" "Hours" ["hours", "open"]
    [.obj [("type", .str "gallery"), ("title", .str "Open 11:00-23:00"),
      ("subtitle", .str "Every day"), ("buttons", .arr [website, orderButton])]]

def defaultAnswer : Json :=
  .obj [("id", .str "default"), ("name", .str "Default Answer"), ("isDefaultAnswer", .bool true),
    ("cards", .arr [textCard "Type 'menu' to see what I can do."])]

def definition : Json :=
  .obj [("bot", .obj [("id", .str "pizza"), ("name", .str "Pizza Bot")]),
    ("blocks", .arr [menu, order, hours, defaultAnswer])]

end Parley.Sample
