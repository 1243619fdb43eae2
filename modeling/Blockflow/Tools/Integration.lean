/-!
# Integrations of known tools

A tool that reaches an outside service needs a stored credential for that service's integration.
The tools known by name have a fixed one; tools not listed run without a credential, unless they
name one themselves.

* `Integration.table` — tool names and their integrations.
* **`Integration.ofTool?`** — the integration of a tool.
-/

namespace Blockflow.Integration

/-- Tool names and their integrations. -/
def table : List (String × String) :=
  [("send_discord_message", "discord"), ("send_slack_message", "slack"),
   ("send_telegram_message", "telegram"), ("send_teams_message", "teams"),
   ("send_google_chat_message", "google_chat"), ("zoom_meeting", "zoom"),
   ("twilio_send_sms", "twilio"), ("twilio_send_whatsapp", "twilio"), ("send_email", "sendgrid"),
   ("send_brevo_email", "brevo"), ("send_webhook", "custom_webhook"), ("api_request", "rest_api"),
   ("notion_search", "notion"), ("notion_query_database", "notion"),
   ("notion_create_page", "notion"), ("notion_update_page", "notion"),
   ("github_create_issue", "github"), ("github_list_issues", "github"),
   ("github_get_repo", "github"), ("github_add_comment", "github"), ("gitlab_projects", "gitlab"),
   ("gitlab_issues", "gitlab"), ("gitlab_mrs", "gitlab"), ("linear_issues", "linear"),
   ("linear_create_issue", "linear"), ("linear_update_issue", "linear"), ("jira_issues", "jira"),
   ("jira_create_issue", "jira"), ("jira_update_issue", "jira"), ("clickup_tasks", "clickup"),
   ("clickup_create_task", "clickup"), ("clickup_update_task", "clickup"),
   ("trello_boards", "trello"), ("trello_lists", "trello"), ("trello_cards", "trello"),
   ("trello_create_card", "trello"), ("airtable_list", "airtable"), ("airtable_read", "airtable"),
   ("airtable_create", "airtable"), ("airtable_update", "airtable"), ("mongodb_query", "mongodb"),
   ("mongodb_write", "mongodb"), ("redis_read", "redis"), ("redis_write", "redis"),
   ("s3_list", "aws_s3"), ("s3_upload", "aws_s3"), ("s3_download", "aws_s3"),
   ("s3_delete", "aws_s3"), ("hubspot_contacts", "hubspot"), ("hubspot_deals", "hubspot"),
   ("hubspot_companies", "hubspot"), ("mailchimp_lists", "mailchimp"),
   ("mailchimp_add_subscriber", "mailchimp"), ("mixpanel_track", "mixpanel"),
   ("mixpanel_user_profile", "mixpanel"), ("posthog_capture", "posthog"),
   ("posthog_identify", "posthog"), ("posthog_query", "posthog"), ("shopify_products", "shopify"),
   ("shopify_orders", "shopify"), ("shopify_customers", "shopify"), ("netlify_sites", "netlify"),
   ("netlify_deploys", "netlify"), ("netlify_trigger_build", "netlify")]

/-- **The integration of a tool known by name.** -/
def ofTool? (tool : String) : Option String := table.lookup tool

end Blockflow.Integration
