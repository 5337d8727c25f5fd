import Parley.Json.Basic

/-!
The settings that an installation comes with. They say what holds by default.
-/

namespace Parley.Settings

def shippedEngine : Json :=
  .obj [("max_steps", .int 100), ("max_delay_seconds", .int 20),
    ("bootstrap_default_blocks", .bool true),
    ("interrupt_keywords", .arr [.str "restart", .str "start over"]),
    ("apology_message", .str "Sorry, something went wrong. Please try again later."),
    ("not_configured_message", .str "This bot is not configured yet.")]

def shippedDatabase : Json :=
  .obj [("url", .str "sqlite:///./blockflow.db"), ("store_backend", .str "memory"),
    ("pool_size", .int 10)]

def shippedMessenger : Json :=
  .obj [("graph_api_url", .str "https://graph.facebook.com/v18.0"), ("timeout_seconds", .int 10),
    ("max_retries", .int 3)]

def shippedQueue : Json :=
  .obj [("mailbox_size", .int 100), ("idle_timeout_seconds", .int 300)]

def shipped : Json :=
  .obj [("app_name", .str "BlockFlow"), ("debug", .bool false), ("log_level", .str "info"),
    ("log_json", .bool false), ("engine", shippedEngine), ("database", shippedDatabase),
    ("messenger", shippedMessenger), ("queue", shippedQueue)]

end Parley.Settings
